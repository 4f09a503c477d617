/-!
# Mapping of host names

Replacements by single code points, where they are no simple case foldings and no canonical
equivalents, then those by several, then what is left out and what stands as it is.

Each word gives a code point and the one it is mapped to, or five numbers: the first code point, how
many there are, the step between them, the image of the first one and the step between the images.
All numbers are hexadecimal.
-/

namespace SchemaContract.Unicode.Data

def hostReplacements : List String :=
  ["a0.20 aa.61 b2.2.1.32.1 b9.31 ba.6f 2b0.2.2.68.2 2b1.266 2b3.72 2b4.2.1.279.2 2b6.281",
   "2b7.2.1.77.2 2e0.263 2e1.6c 2e2.73 2e3.78 2e4.295 3d2.3c5 3d3.3cd 3d4.3cb 3f2.3c3 3f9.3c3",
   "f0c.f0b 10fc.10dc 1d2c.2.2.61.1 1d2d.e6 1d30.2.1.64.1 1d32.1dd 1d33.8.1.67.1 1d3c.2.2.6f.1",
   "1d3d.223 1d3f.2.1.72.2 1d41.2.1.75.2 1d43.61 1d44.2.1.250.1 1d46.1d02 1d47.2.1.62.2 1d49.65",
   "1d4a.2.1.259.2 1d4c.25c 1d4d.67 1d4f.2.1.6b.2 1d51.14b 1d52.6f 1d53.254 1d54.2.1.1d16.1",
   "1d56.70 1d57.2.1.74.1 1d59.1d1d 1d5a.26f 1d5b.76 1d5c.1d25 1d5d.3.1.3b2.1 1d60.2.1.3c6.1",
   "1d62.69 1d63.72 1d64.2.1.75.1 1d66.2.1.3b2.1 1d68.3c1 1d69.2.1.3c6.1 1d78.43d 1d9b.252",
   "1d9c.63 1d9d.255 1d9e.f0 1d9f.25c 1da0.66 1da1.2.1.25f.2 1da3.265 1da4.3.1.268.1 1da7.1d7b",
   "1da8.29d 1da9.26d 1daa.1d85 1dab.29f 1dac.2.2.271.1 1dad.270 1daf.3.1.273.1 1db2.278",
   "1db3.2.1.282.1 1db5.1ab 1db6.2.1.289.1 1db8.1d1c 1db9.2.1.28b.1 1dbb.7a 1dbc.3.1.290.1",
   "1dbf.3b8 1fbb.3ac 1fc9.2.2.3ad.1 1fdb.3af 1feb.3cd 1ff9.2.2.3cc.2 2000.b.1.20.0 2011.2010",
   "202f.20 205f.20 2070.30 2071.69 2074.6.1.34.1 207a.2b 207b.2212 207c.3d 207d.2.1.28.1",
   "207f.6e 2080.a.1.30.1 208a.2b 208b.2212 208c.3d 208d.2.1.28.1 2090.61 2091.65 2092.6f",
   "2093.78 2094.259 2095.68 2096.4.1.6b.1 209a.70 209b.2.1.73.1 2102.63 2107.25b 210a.2.1.67.1",
   "210c.3.1.68.0 210f.127 2110.2.1.69.0 2112.2.1.6c.0 2115.6e 2119.3.1.70.1 211c.2.1.72.0",
   "2124.7a 2128.7a 212c.2.1.62.1 212f.2.1.65.0 2131.66 2133.2.1.6d.2 2135.4.1.5d0.1 2139.69",
   "213c.3c0 213d.2.1.3b3.0 213f.3c0 2140.2211 2145.2.1.64.0 2147.65 2148.2.1.69.1 2160.69",
   "2164.76 2169.78 216c.6c 216d.2.1.63.1 216f.6d 2170.69 2174.76 2179.78 217c.6c 217d.2.1.63.1",
   "217f.6d 2460.9.1.31.1 24b6.1a.1.61.1 24d0.1a.1.61.1 24ea.30 2c7c.6a 2c7d.76 2d6f.2d61",
   "2e9f.6bcd 2ef3.9f9f 2f00.4e00 2f01.4e28 2f02.4e36 2f03.4e3f 2f04.4e59 2f05.4e85 2f06.4e8c",
   "2f07.4ea0 2f08.4eba 2f09.513f 2f0a.5165 2f0b.516b 2f0c.5182 2f0d.5196 2f0e.51ab 2f0f.51e0",
   "2f10.51f5 2f11.5200 2f12.529b 2f13.52f9 2f14.5315 2f15.531a 2f16.5338 2f17.5341 2f18.535c",
   "2f19.5369 2f1a.5382 2f1b.53b6 2f1c.53c8 2f1d.53e3 2f1e.56d7 2f1f.571f 2f20.58eb 2f21.5902",
   "2f22.590a 2f23.5915 2f24.5927 2f25.5973 2f26.5b50 2f27.5b80 2f28.5bf8 2f29.5c0f 2f2a.5c22",
   "2f2b.5c38 2f2c.5c6e 2f2d.5c71 2f2e.5ddb 2f2f.5de5 2f30.5df1 2f31.5dfe 2f32.5e72 2f33.5e7a",
   "2f34.5e7f 2f35.5ef4 2f36.5efe 2f37.5f0b 2f38.5f13 2f39.5f50 2f3a.5f61 2f3b.5f73 2f3c.5fc3",
   "2f3d.6208 2f3e.6236 2f3f.624b 2f40.652f 2f41.6534 2f42.6587 2f43.6597 2f44.65a4 2f45.65b9",
   "2f46.65e0 2f47.65e5 2f48.66f0 2f49.6708 2f4a.6728 2f4b.6b20 2f4c.6b62 2f4d.6b79 2f4e.6bb3",
   "2f4f.6bcb 2f50.6bd4 2f51.6bdb 2f52.6c0f 2f53.6c14 2f54.6c34 2f55.706b 2f56.722a 2f57.7236",
   "2f58.723b 2f59.723f 2f5a.7247 2f5b.2.1.7259.2 2f5d.72ac 2f5e.7384 2f5f.7389 2f60.74dc",
   "2f61.74e6 2f62.7518 2f63.751f 2f64.7528 2f65.7530 2f66.758b 2f67.7592 2f68.7676 2f69.767d",
   "2f6a.76ae 2f6b.76bf 2f6c.76ee 2f6d.77db 2f6e.77e2 2f6f.77f3 2f70.793a 2f71.79b8 2f72.79be",
   "2f73.7a74 2f74.7acb 2f75.7af9 2f76.7c73 2f77.7cf8 2f78.7f36 2f79.7f51 2f7a.7f8a 2f7b.7fbd",
   "2f7c.8001 2f7d.800c 2f7e.8012 2f7f.8033 2f80.807f 2f81.8089 2f82.81e3 2f83.81ea 2f84.81f3",
   "2f85.81fc 2f86.820c 2f87.821b 2f88.821f 2f89.826e 2f8a.8272 2f8b.8278 2f8c.864d 2f8d.866b",
   "2f8e.8840 2f8f.884c 2f90.8863 2f91.897e 2f92.898b 2f93.89d2 2f94.8a00 2f95.8c37 2f96.8c46",
   "2f97.8c55 2f98.8c78 2f99.8c9d 2f9a.8d64 2f9b.8d70 2f9c.8db3 2f9d.8eab 2f9e.8eca 2f9f.8f9b",
   "2fa0.8fb0 2fa1.8fb5 2fa2.9091 2fa3.9149 2fa4.91c6 2fa5.91cc 2fa6.91d1 2fa7.9577 2fa8.9580",
   "2fa9.961c 2faa.96b6 2fab.96b9 2fac.96e8 2fad.9751 2fae.975e 2faf.9762 2fb0.9769 2fb1.97cb",
   "2fb2.97ed 2fb3.97f3 2fb4.9801 2fb5.98a8 2fb6.98db 2fb7.98df 2fb8.9996 2fb9.9999 2fba.99ac",
   "2fbb.9aa8 2fbc.9ad8 2fbd.9adf 2fbe.9b25 2fbf.9b2f 2fc0.9b32 2fc1.9b3c 2fc2.9b5a 2fc3.9ce5",
   "2fc4.9e75 2fc5.9e7f 2fc6.9ea5 2fc7.9ebb 2fc8.9ec3 2fc9.9ecd 2fca.9ed1 2fcb.9ef9 2fcc.9efd",
   "2fcd.9f0e 2fce.9f13 2fcf.9f20 2fd0.9f3b 2fd1.9f4a 2fd2.9f52 2fd3.9f8d 2fd4.9f9c 2fd5.9fa0",
   "3000.20 3002.2e 3036.3012 3038.5341 3039.2.1.5344.1 3131.2.1.1100.1 3133.2.2.11aa.2",
   "3134.1102 3136.11ad 3137.3.1.1103.1 313a.6.1.11b0.1 3140.111a 3141.3.1.1106.1 3144.1121",
   "3145.a.1.1109.1 314f.15.1.1161.1 3165.2.1.1114.1 3167.2.1.11c7.1 3169.2.1.11cc.2 316b.11d3",
   "316c.2.1.11d7.2 316e.111c 316f.2.1.11dd.2 3171.2.1.111d.1 3173.2.1.1120.2 3175.1123",
   "3176.3.1.1127.2 3179.4.1.112c.1 317d.1132 317e.1136 317f.1140 3180.1147 3181.114c",
   "3182.2.1.11f1.1 3184.3.1.1157.1 3187.2.1.1184.1 3189.1188 318a.2.1.1191.1 318c.1194",
   "318d.119e 318e.11a1 3192.4e00 3193.4e8c 3194.3.2.4e09.1 3195.56db 3197.4e2d 3199.7532",
   "319a.4e59 319b.4e19 319c.4e01 319d.5929 319e.5730 319f.4eba 3244.554f 3245.5e7c 3246.6587",
   "3247.7b8f 3260.2.1.1100.2 3262.2.1.1103.2 3264.2.1.1106.1 3266.2.1.1109.2 3268.2.1.110c.2",
   "326a.4.1.110f.1 326e.ac00 326f.b098 3270.b2e4 3271.b77c 3272.b9c8 3273.bc14 3274.c0ac",
   "3275.c544 3276.c790 3277.cc28 3278.ce74 3279.d0c0 327a.d30c 327b.d558 327e.c6b0 3280.4e00",
   "3281.4e8c 3282.4e09 3283.56db 3284.4e94 3285.516d 3286.4e03 3287.516b 3288.4e5d 3289.5341",
   "328a.6708 328b.706b 328c.6c34 328d.6728 328e.91d1 328f.571f 3290.65e5 3291.682a 3292.6709",
   "3293.793e 3294.540d 3295.7279 3296.8ca1 3297.795d 3298.52b4 3299.79d8 329a.7537 329b.5973",
   "329c.9069 329d.512a 329e.5370 329f.6ce8 32a0.9805 32a1.4f11 32a2.5199 32a3.6b63",
   "32a4.2.2.4e0a.1 32a5.4e2d 32a7.5de6 32a8.53f3 32a9.533b 32aa.5b97 32ab.5b66 32ac.76e3",
   "32ad.4f01 32ae.8cc7 32af.5354 32b0.591c 32d0.5.1.30a2.2 32d5.c.1.30ab.2 32e1.4.1.30c4.2",
   "32e5.5.1.30cb.1 32ea.30d2 32eb.30d5 32ec.30d8 32ed.30db 32ee.5.1.30de.1 32f3.3.1.30e4.2",
   "32f6.5.1.30e9.1 32fb.4.1.30ef.1 a69c.2.1.44a.2 a770.a76f a7f2.63 a7f3.66 a7f4.71 a7f8.127",
   "a7f9.153 ab5c.a727 ab5d.ab37 ab5e.26b ab5f.ab52 ab69.28d fb20.5e2 fb21.5d0 fb22.2.1.5d3.1",
   "fb24.3.1.5db.1 fb27.2.1.5e8.2 fb29.2b fb50.2.1.671.0 fb52.4.1.67b.0 fb56.4.1.67e.0",
   "fb5a.4.1.680.0 fb5e.4.1.67a.0 fb62.4.1.67f.0 fb66.4.1.679.0 fb6a.4.1.6a4.0 fb6e.4.1.6a6.0",
   "fb72.4.1.684.0 fb76.4.1.683.0 fb7a.4.1.686.0 fb7e.4.1.687.0 fb82.2.1.68d.0 fb84.2.1.68c.0",
   "fb86.2.1.68e.0 fb88.2.1.688.0 fb8a.2.1.698.0 fb8c.2.1.691.0 fb8e.4.1.6a9.0 fb92.4.1.6af.0",
   "fb96.4.1.6b3.0 fb9a.4.1.6b1.0 fb9e.2.1.6ba.0 fba0.4.1.6bb.0 fba4.2.1.6c0.0 fba6.4.1.6c1.0",
   "fbaa.4.1.6be.0 fbae.2.1.6d2.0 fbb0.2.1.6d3.0 fbd3.4.1.6ad.0 fbd7.2.1.6c7.0 fbd9.2.1.6c6.0",
   "fbdb.2.1.6c8.0 fbde.2.1.6cb.0 fbe0.2.1.6c5.0 fbe2.2.1.6c9.0 fbe4.4.1.6d0.0 fbe8.2.1.649.0",
   "fbfc.4.1.6cc.0 fe10.2c fe11.3001 fe13.2.1.3a.1 fe15.21 fe16.3f fe17.2.1.3016.1 fe31.2014",
   "fe32.2013 fe33.2.1.5f.0 fe35.2.1.28.1 fe37.2.1.7b.2 fe39.2.1.3014.1 fe3b.2.1.3010.1",
   "fe3d.2.1.300a.1 fe3f.2.1.3008.1 fe41.4.1.300c.1 fe47.2.1.5b.2 fe4d.3.1.5f.0 fe50.2c",
   "fe51.3001 fe54.3b fe55.3a fe56.3f fe57.21 fe58.2014 fe59.2.1.28.1 fe5b.2.1.7b.2",
   "fe5d.2.1.3014.1 fe5f.23 fe60.26 fe61.2.1.2a.1 fe63.2d fe64.2.1.3c.2 fe66.3d fe68.5c",
   "fe69.2.1.24.1 fe6b.40 fe80.6.2.621.1 fe81.5.2.622.1 fe8b.3.2.626.1 fe8c.3.2.626.1",
   "fe91.3.2.628.1 fe92.3.2.628.1 fe97.2.1.62a.0 fe99.4.1.62b.0 fe9d.4.1.62c.0 fea1.4.1.62d.0",
   "fea5.4.1.62e.0 fea9.5.2.62f.1 feaa.5.2.62f.1 feb3.2.1.633.0 feb5.4.1.634.0 feb9.4.1.635.0",
   "febd.4.1.636.0 fec1.4.1.637.0 fec5.4.1.638.0 fec9.4.1.639.0 fecd.4.1.63a.0 fed1.4.1.641.0",
   "fed5.4.1.642.0 fed9.4.1.643.0 fedd.4.1.644.0 fee1.4.1.645.0 fee5.4.1.646.0 fee9.4.1.647.0",
   "feed.3.2.648.1 feee.3.2.648.1 fef3.2.1.64a.0 ff01.20.1.21.1 ff21.1a.1.61.1 ff3b.24.1.5b.1",
   "ff5f.2.1.2985.1 ff61.2e ff62.2.1.300c.1 ff64.3001 ff65.30fb ff66.30f2 ff67.5.1.30a1.2",
   "ff6c.3.1.30e3.2 ff6f.30c3 ff70.30fc ff71.5.1.30a2.2 ff76.c.1.30ab.2 ff82.4.1.30c4.2",
   "ff86.5.1.30cb.1 ff8b.30d2 ff8c.30d5 ff8d.30d8 ff8e.30db ff8f.5.1.30de.1 ff94.3.1.30e4.2",
   "ff97.5.1.30e9.1 ff9c.30ef ff9d.30f3 ff9e.2.1.3099.1 ffa1.2.1.1100.1 ffa3.2.2.11aa.2",
   "ffa4.1102 ffa6.11ad ffa7.3.1.1103.1 ffaa.6.1.11b0.1 ffb0.111a ffb1.3.1.1106.1 ffb4.1121",
   "ffb5.a.1.1109.1 ffc2.6.1.1161.1 ffca.6.1.1167.1 ffd2.6.1.116d.1 ffda.3.1.1173.1",
   "ffe0.2.1.a2.1 ffe2.ac ffe4.a6 ffe5.a5 ffe6.20a9 ffe8.2502 ffe9.4.1.2190.1 ffed.25a0",
   "ffee.25cb 10781.2.1.2d0.1 10783.e6 10784.299 10785.253 10787.2.2.2a3.2 10788.ab66 1078a.2a4",
   "1078b.2.1.256.1 1078d.1d91 1078e.258 1078f.25e 10790.2a9 10791.264 10792.262 10793.260",
   "10794.2.2.29b.1 10795.127 10797.267 10798.284 10799.2.1.2aa.1 1079b.26c 1079c.1df04",
   "1079d.a78e 1079e.26e 1079f.2.2.1df05.1 107a0.28e 107a2.f8 107a3.2.1.276.1 107a5.71 107a6.27a",
   "107a7.1df08 107a8.2.1.27d.1 107aa.280 107ab.2a8 107ac.2.2.2a6.1 107ad.ab67 107af.288",
   "107b0.2c71 107b2.28f 107b3.2.1.2a1.1 107b5.298 107b6.3.1.1c0.1 107b9.1df0a 107ba.1df1e",
   "1ccd6.1a.1.61.1 1ccf0.a.1.30.1 1d400.1a.1.61.1 1d41a.1a.1.61.1 1d434.1a.1.61.1",
   "1d44e.d.2.61.2 1d44f.3.2.62.2 1d457.9.2.6a.2 1d468.1a.1.61.1 1d482.1a.1.61.1 1d49c.2.2.61.2",
   "1d49f.64 1d4a2.67 1d4a5.2.1.6a.1 1d4a9.4.1.6e.1 1d4ae.8.1.73.1 1d4b6.4.1.61.1 1d4bb.b.2.66.2",
   "1d4be.3.2.69.2 1d4c6.5.2.71.2 1d4d0.1a.1.61.1 1d4ea.1a.1.61.1 1d504.2.1.61.1 1d507.4.1.64.1",
   "1d50d.8.1.6a.1 1d516.7.1.73.1 1d51e.1a.1.61.1 1d538.2.1.61.1 1d53b.4.1.64.1 1d540.5.1.69.1",
   "1d546.6f 1d54a.7.1.73.1 1d552.1a.1.61.1 1d56c.1a.1.61.1 1d586.1a.1.61.1 1d5a0.1a.1.61.1",
   "1d5ba.1a.1.61.1 1d5d4.1a.1.61.1 1d5ee.1a.1.61.1 1d608.1a.1.61.1 1d622.1a.1.61.1",
   "1d63c.1a.1.61.1 1d656.1a.1.61.1 1d670.1a.1.61.1 1d68a.1a.1.61.1 1d6a4.131 1d6a5.237",
   "1d6a8.11.1.3b1.1 1d6b9.3b8 1d6ba.7.1.3c3.1 1d6c1.2207 1d6c2.11.1.3b1.1 1d6d3.2.1.3c3.0",
   "1d6d5.6.1.3c4.1 1d6db.2202 1d6dc.3b5 1d6dd.2.1.3b8.2 1d6df.3c6 1d6e0.3c1 1d6e1.3c0",
   "1d6e2.11.1.3b1.1 1d6f3.3b8 1d6f4.7.1.3c3.1 1d6fb.2207 1d6fc.11.1.3b1.1 1d70d.2.1.3c3.0",
   "1d70f.6.1.3c4.1 1d715.2202 1d716.3b5 1d717.2.1.3b8.2 1d719.3c6 1d71a.3c1 1d71b.3c0",
   "1d71c.11.1.3b1.1 1d72d.3b8 1d72e.7.1.3c3.1 1d735.2207 1d736.11.1.3b1.1 1d747.2.1.3c3.0",
   "1d749.6.1.3c4.1 1d74f.2202 1d750.3b5 1d751.2.1.3b8.2 1d753.3c6 1d754.3c1 1d755.3c0",
   "1d756.11.1.3b1.1 1d767.3b8 1d768.7.1.3c3.1 1d76f.2207 1d770.11.1.3b1.1 1d781.2.1.3c3.0",
   "1d783.6.1.3c4.1 1d789.2202 1d78a.3b5 1d78b.2.1.3b8.2 1d78d.3c6 1d78e.3c1 1d78f.3c0",
   "1d790.11.1.3b1.1 1d7a1.3b8 1d7a2.7.1.3c3.1 1d7a9.2207 1d7aa.11.1.3b1.1 1d7bb.2.1.3c3.0",
   "1d7bd.6.1.3c4.1 1d7c3.2202 1d7c4.3b5 1d7c5.2.1.3b8.2 1d7c7.3c6 1d7c8.3c1 1d7c9.3c0",
   "1d7ca.2.1.3dd.0 1d7ce.a.1.30.1 1d7d8.a.1.30.1 1d7e2.a.1.30.1 1d7ec.a.1.30.1 1d7f6.a.1.30.1",
   "1e030.9.1.430.1 1e039.3.1.43a.1 1e03c.b.1.43e.1 1e047.2.1.44b.2 1e049.44e 1e04a.a689",
   "1e04b.4d9 1e04c.2.1.456.2 1e04e.4e9 1e04f.4af 1e050.4cf 1e051.9.1.430.1 1e05a.2.1.43a.1",
   "1e05c.2.1.43e.1 1e05e.2.1.441.2 1e060.5.1.444.1 1e065.2.1.44a.1 1e067.491 1e068.456",
   "1e069.455 1e06a.45f 1e06b.4ab 1e06c.a651 1e06d.4b1 1ee00.2.1.627.1 1ee02.62c 1ee03.62f",
   "1ee05.648 1ee06.632 1ee07.62d 1ee08.637 1ee09.64a 1ee0a.4.1.643.1 1ee0e.633 1ee0f.639",
   "1ee10.2.2.641.1 1ee11.635 1ee13.631 1ee14.634 1ee15.2.1.62a.1 1ee17.2.1.62e.2",
   "1ee19.3.1.636.2 1ee1c.66e 1ee1d.6ba 1ee1e.6a1 1ee1f.66f 1ee21.628 1ee22.62c 1ee24.647",
   "1ee27.62d 1ee29.64a 1ee2a.4.1.643.1 1ee2e.633 1ee2f.639 1ee30.2.2.641.1 1ee31.635 1ee34.634",
   "1ee35.2.1.62a.1 1ee37.62e 1ee39.636 1ee3b.63a 1ee42.62c 1ee47.62d 1ee49.64a 1ee4b.2.2.644.2",
   "1ee4e.633 1ee4f.639 1ee51.635 1ee52.642 1ee54.634 1ee57.62e 1ee59.636 1ee5b.63a 1ee5d.6ba",
   "1ee5f.66f 1ee61.628 1ee62.62c 1ee64.647 1ee67.62d 1ee68.637 1ee69.64a 1ee6a.2.2.643.2",
   "1ee6d.646 1ee6e.633 1ee6f.639 1ee70.2.2.641.1 1ee71.635 1ee74.634 1ee75.2.1.62a.1 1ee77.62e",
   "1ee79.3.1.636.2 1ee7c.66e 1ee7e.6a1 1ee80.2.1.627.1 1ee82.62c 1ee83.62f 1ee84.2.1.647.1",
   "1ee86.632 1ee87.62d 1ee88.637 1ee89.64a 1ee8b.3.1.644.1 1ee8e.633 1ee8f.639 1ee90.2.2.641.1",
   "1ee91.635 1ee93.631 1ee94.634 1ee95.2.1.62a.1 1ee97.2.1.62e.2 1ee99.3.1.636.2 1eea1.628",
   "1eea2.62c 1eea3.62f 1eea5.648 1eea6.632 1eea7.62d 1eea8.637 1eea9.64a 1eeab.3.1.644.1",
   "1eeae.633 1eeaf.639 1eeb0.2.2.641.1 1eeb1.635 1eeb3.631 1eeb4.634 1eeb5.2.1.62a.1",
   "1eeb7.2.1.62e.2 1eeb9.3.1.636.2 1f12b.63 1f12c.72 1f130.1a.1.61.1 1f202.30b5 1f210.624b",
   "1f211.5b57 1f212.53cc 1f213.30c7 1f214.4e8c 1f215.591a 1f216.89e3 1f217.5929 1f218.4ea4",
   "1f219.6620 1f21a.7121 1f21b.6599 1f21c.524d 1f21d.5f8c 1f21e.518d 1f21f.65b0 1f220.521d",
   "1f221.7d42 1f222.751f 1f223.8ca9 1f224.58f0 1f225.5439 1f226.6f14 1f227.6295 1f228.6355",
   "1f229.4e00 1f22a.4e09 1f22b.904a 1f22c.5de6 1f22d.4e2d 1f22e.53f3 1f22f.6307 1f230.8d70",
   "1f231.6253 1f232.7981 1f233.7a7a 1f234.5408 1f235.6e80 1f236.6709 1f237.6708 1f238.7533",
   "1f239.5272 1f23a.55b6 1f23b.914d 1f250.5f97 1f251.53ef 1fbf0.a.1.30.1"]

/-- A code point and those it is replaced by. -/
def hostExpansions : List String :=
  ["a8:20+308 af:20+304 b4:20+301 b8:20+327 bc:31+2044+34 bd:31+2044+32 be:33+2044+34 130:69+307",
   "132:69+6a 133:69+6a 13f:6c+b7 140:6c+b7 149:2bc+6e 1c4:64+17e 1c5:64+17e 1c6:64+17e",
   "1c7:6c+6a 1c8:6c+6a 1c9:6c+6a 1ca:6e+6a 1cb:6e+6a 1cc:6e+6a 1f1:64+7a 1f2:64+7a 1f3:64+7a",
   "2d8:20+306 2d9:20+307 2da:20+30a 2db:20+328 2dc:20+303 2dd:20+30b 37a:20+3b9 384:20+301",
   "385:20+308+301 587:565+582 675:627+674 676:648+674 677:6c7+674 678:64a+674 e33:e4d+e32",
   "eb3:ecd+eb2 edc:eab+e99 edd:eab+ea1 f77:fb2+f71+f80 f79:fb3+f71+f80 1e9a:61+2be",
   "1f80:1f00+3b9 1f81:1f01+3b9 1f82:1f02+3b9 1f83:1f03+3b9 1f84:1f04+3b9 1f85:1f05+3b9",
   "1f86:1f06+3b9 1f87:1f07+3b9 1f88:1f00+3b9 1f89:1f01+3b9 1f8a:1f02+3b9 1f8b:1f03+3b9",
   "1f8c:1f04+3b9 1f8d:1f05+3b9 1f8e:1f06+3b9 1f8f:1f07+3b9 1f90:1f20+3b9 1f91:1f21+3b9",
   "1f92:1f22+3b9 1f93:1f23+3b9 1f94:1f24+3b9 1f95:1f25+3b9 1f96:1f26+3b9 1f97:1f27+3b9",
   "1f98:1f20+3b9 1f99:1f21+3b9 1f9a:1f22+3b9 1f9b:1f23+3b9 1f9c:1f24+3b9 1f9d:1f25+3b9",
   "1f9e:1f26+3b9 1f9f:1f27+3b9 1fa0:1f60+3b9 1fa1:1f61+3b9 1fa2:1f62+3b9 1fa3:1f63+3b9",
   "1fa4:1f64+3b9 1fa5:1f65+3b9 1fa6:1f66+3b9 1fa7:1f67+3b9 1fa8:1f60+3b9 1fa9:1f61+3b9",
   "1faa:1f62+3b9 1fab:1f63+3b9 1fac:1f64+3b9 1fad:1f65+3b9 1fae:1f66+3b9 1faf:1f67+3b9",
   "1fb2:1f70+3b9 1fb3:3b1+3b9 1fb4:3ac+3b9 1fb7:1fb6+3b9 1fbc:3b1+3b9 1fbd:20+313 1fbf:20+313",
   "1fc0:20+342 1fc1:20+308+342 1fc2:1f74+3b9 1fc3:3b7+3b9 1fc4:3ae+3b9 1fc7:1fc6+3b9",
   "1fcc:3b7+3b9 1fcd:20+313+300 1fce:20+313+301 1fcf:20+313+342 1fdd:20+314+300 1fde:20+314+301",
   "1fdf:20+314+342 1fed:20+308+300 1fee:20+308+301 1ff2:1f7c+3b9 1ff3:3c9+3b9 1ff4:3ce+3b9",
   "1ff7:1ff6+3b9 1ffc:3c9+3b9 1ffd:20+301 1ffe:20+314 2017:20+333 2033:2032+2032",
   "2034:2032+2032+2032 2036:2035+2035 2037:2035+2035+2035 203c:21+21 203e:20+305 2047:3f+3f",
   "2048:3f+21 2049:21+3f 2057:2032+2032+2032+2032 20a8:72+73 2100:61+2f+63 2101:61+2f+73",
   "2103:b0+63 2105:63+2f+6f 2106:63+2f+75 2109:b0+66 2116:6e+6f 2120:73+6d 2121:74+65+6c",
   "2122:74+6d 213b:66+61+78 2150:31+2044+37 2151:31+2044+39 2152:31+2044+31+30 2153:31+2044+33",
   "2154:32+2044+33 2155:31+2044+35 2156:32+2044+35 2157:33+2044+35 2158:34+2044+35",
   "2159:31+2044+36 215a:35+2044+36 215b:31+2044+38 215c:33+2044+38 215d:35+2044+38",
   "215e:37+2044+38 215f:31+2044 2161:69+69 2162:69+69+69 2163:69+76 2165:76+69 2166:76+69+69",
   "2167:76+69+69+69 2168:69+78 216a:78+69 216b:78+69+69 2171:69+69 2172:69+69+69 2173:69+76",
   "2175:76+69 2176:76+69+69 2177:76+69+69+69 2178:69+78 217a:78+69 217b:78+69+69",
   "2189:30+2044+33 222c:222b+222b 222d:222b+222b+222b 222f:222e+222e 2230:222e+222e+222e",
   "2469:31+30 246a:31+31 246b:31+32 246c:31+33 246d:31+34 246e:31+35 246f:31+36 2470:31+37",
   "2471:31+38 2472:31+39 2473:32+30 2474:28+31+29 2475:28+32+29 2476:28+33+29 2477:28+34+29",
   "2478:28+35+29 2479:28+36+29 247a:28+37+29 247b:28+38+29 247c:28+39+29 247d:28+31+30+29",
   "247e:28+31+31+29 247f:28+31+32+29 2480:28+31+33+29 2481:28+31+34+29 2482:28+31+35+29",
   "2483:28+31+36+29 2484:28+31+37+29 2485:28+31+38+29 2486:28+31+39+29 2487:28+32+30+29",
   "249c:28+61+29 249d:28+62+29 249e:28+63+29 249f:28+64+29 24a0:28+65+29 24a1:28+66+29",
   "24a2:28+67+29 24a3:28+68+29 24a4:28+69+29 24a5:28+6a+29 24a6:28+6b+29 24a7:28+6c+29",
   "24a8:28+6d+29 24a9:28+6e+29 24aa:28+6f+29 24ab:28+70+29 24ac:28+71+29 24ad:28+72+29",
   "24ae:28+73+29 24af:28+74+29 24b0:28+75+29 24b1:28+76+29 24b2:28+77+29 24b3:28+78+29",
   "24b4:28+79+29 24b5:28+7a+29 2a0c:222b+222b+222b+222b 2a74:3a+3a+3d 2a75:3d+3d 2a76:3d+3d+3d",
   "309b:20+3099 309c:20+309a 309f:3088+308a 30ff:30b3+30c8 3200:28+1100+29 3201:28+1102+29",
   "3202:28+1103+29 3203:28+1105+29 3204:28+1106+29 3205:28+1107+29 3206:28+1109+29",
   "3207:28+110b+29 3208:28+110c+29 3209:28+110e+29 320a:28+110f+29 320b:28+1110+29",
   "320c:28+1111+29 320d:28+1112+29 320e:28+ac00+29 320f:28+b098+29 3210:28+b2e4+29",
   "3211:28+b77c+29 3212:28+b9c8+29 3213:28+bc14+29 3214:28+c0ac+29 3215:28+c544+29",
   "3216:28+c790+29 3217:28+cc28+29 3218:28+ce74+29 3219:28+d0c0+29 321a:28+d30c+29",
   "321b:28+d558+29 321c:28+c8fc+29 321d:28+c624+c804+29 321e:28+c624+d6c4+29 3220:28+4e00+29",
   "3221:28+4e8c+29 3222:28+4e09+29 3223:28+56db+29 3224:28+4e94+29 3225:28+516d+29",
   "3226:28+4e03+29 3227:28+516b+29 3228:28+4e5d+29 3229:28+5341+29 322a:28+6708+29",
   "322b:28+706b+29 322c:28+6c34+29 322d:28+6728+29 322e:28+91d1+29 322f:28+571f+29",
   "3230:28+65e5+29 3231:28+682a+29 3232:28+6709+29 3233:28+793e+29 3234:28+540d+29",
   "3235:28+7279+29 3236:28+8ca1+29 3237:28+795d+29 3238:28+52b4+29 3239:28+4ee3+29",
   "323a:28+547c+29 323b:28+5b66+29 323c:28+76e3+29 323d:28+4f01+29 323e:28+8cc7+29",
   "323f:28+5354+29 3240:28+796d+29 3241:28+4f11+29 3242:28+81ea+29 3243:28+81f3+29",
   "3250:70+74+65 3251:32+31 3252:32+32 3253:32+33 3254:32+34 3255:32+35 3256:32+36 3257:32+37",
   "3258:32+38 3259:32+39 325a:33+30 325b:33+31 325c:33+32 325d:33+33 325e:33+34 325f:33+35",
   "327c:cc38+ace0 327d:c8fc+c758 32b1:33+36 32b2:33+37 32b3:33+38 32b4:33+39 32b5:34+30",
   "32b6:34+31 32b7:34+32 32b8:34+33 32b9:34+34 32ba:34+35 32bb:34+36 32bc:34+37 32bd:34+38",
   "32be:34+39 32bf:35+30 32c0:31+6708 32c1:32+6708 32c2:33+6708 32c3:34+6708 32c4:35+6708",
   "32c5:36+6708 32c6:37+6708 32c7:38+6708 32c8:39+6708 32c9:31+30+6708 32ca:31+31+6708",
   "32cb:31+32+6708 32cc:68+67 32cd:65+72+67 32ce:65+76 32cf:6c+74+64 32ff:4ee4+548c",
   "3300:30a2+30d1+30fc+30c8 3301:30a2+30eb+30d5+30a1 3302:30a2+30f3+30da+30a2",
   "3303:30a2+30fc+30eb 3304:30a4+30cb+30f3+30b0 3305:30a4+30f3+30c1 3306:30a6+30a9+30f3",
   "3307:30a8+30b9+30af+30fc+30c9 3308:30a8+30fc+30ab+30fc 3309:30aa+30f3+30b9",
   "330a:30aa+30fc+30e0 330b:30ab+30a4+30ea 330c:30ab+30e9+30c3+30c8 330d:30ab+30ed+30ea+30fc",
   "330e:30ac+30ed+30f3 330f:30ac+30f3+30de 3310:30ae+30ac 3311:30ae+30cb+30fc",
   "3312:30ad+30e5+30ea+30fc 3313:30ae+30eb+30c0+30fc 3314:30ad+30ed",
   "3315:30ad+30ed+30b0+30e9+30e0 3316:30ad+30ed+30e1+30fc+30c8+30eb",
   "3317:30ad+30ed+30ef+30c3+30c8 3318:30b0+30e9+30e0 3319:30b0+30e9+30e0+30c8+30f3",
   "331a:30af+30eb+30bc+30a4+30ed 331b:30af+30ed+30fc+30cd 331c:30b1+30fc+30b9",
   "331d:30b3+30eb+30ca 331e:30b3+30fc+30dd 331f:30b5+30a4+30af+30eb",
   "3320:30b5+30f3+30c1+30fc+30e0 3321:30b7+30ea+30f3+30b0 3322:30bb+30f3+30c1",
   "3323:30bb+30f3+30c8 3324:30c0+30fc+30b9 3325:30c7+30b7 3326:30c9+30eb 3327:30c8+30f3",
   "3328:30ca+30ce 3329:30ce+30c3+30c8 332a:30cf+30a4+30c4 332b:30d1+30fc+30bb+30f3+30c8",
   "332c:30d1+30fc+30c4 332d:30d0+30fc+30ec+30eb 332e:30d4+30a2+30b9+30c8+30eb",
   "332f:30d4+30af+30eb 3330:30d4+30b3 3331:30d3+30eb 3332:30d5+30a1+30e9+30c3+30c9",
   "3333:30d5+30a3+30fc+30c8 3334:30d6+30c3+30b7+30a7+30eb 3335:30d5+30e9+30f3",
   "3336:30d8+30af+30bf+30fc+30eb 3337:30da+30bd 3338:30da+30cb+30d2 3339:30d8+30eb+30c4",
   "333a:30da+30f3+30b9 333b:30da+30fc+30b8 333c:30d9+30fc+30bf 333d:30dd+30a4+30f3+30c8",
   "333e:30dc+30eb+30c8 333f:30db+30f3 3340:30dd+30f3+30c9 3341:30db+30fc+30eb",
   "3342:30db+30fc+30f3 3343:30de+30a4+30af+30ed 3344:30de+30a4+30eb 3345:30de+30c3+30cf",
   "3346:30de+30eb+30af 3347:30de+30f3+30b7+30e7+30f3 3348:30df+30af+30ed+30f3 3349:30df+30ea",
   "334a:30df+30ea+30d0+30fc+30eb 334b:30e1+30ac 334c:30e1+30ac+30c8+30f3",
   "334d:30e1+30fc+30c8+30eb 334e:30e4+30fc+30c9 334f:30e4+30fc+30eb 3350:30e6+30a2+30f3",
   "3351:30ea+30c3+30c8+30eb 3352:30ea+30e9 3353:30eb+30d4+30fc 3354:30eb+30fc+30d6+30eb",
   "3355:30ec+30e0 3356:30ec+30f3+30c8+30b2+30f3 3357:30ef+30c3+30c8 3358:30+70b9 3359:31+70b9",
   "335a:32+70b9 335b:33+70b9 335c:34+70b9 335d:35+70b9 335e:36+70b9 335f:37+70b9 3360:38+70b9",
   "3361:39+70b9 3362:31+30+70b9 3363:31+31+70b9 3364:31+32+70b9 3365:31+33+70b9 3366:31+34+70b9",
   "3367:31+35+70b9 3368:31+36+70b9 3369:31+37+70b9 336a:31+38+70b9 336b:31+39+70b9",
   "336c:32+30+70b9 336d:32+31+70b9 336e:32+32+70b9 336f:32+33+70b9 3370:32+34+70b9",
   "3371:68+70+61 3372:64+61 3373:61+75 3374:62+61+72 3375:6f+76 3376:70+63 3377:64+6d",
   "3378:64+6d+32 3379:64+6d+33 337a:69+75 337b:5e73+6210 337c:662d+548c 337d:5927+6b63",
   "337e:660e+6cbb 337f:682a+5f0f+4f1a+793e 3380:70+61 3381:6e+61 3382:3bc+61 3383:6d+61",
   "3384:6b+61 3385:6b+62 3386:6d+62 3387:67+62 3388:63+61+6c 3389:6b+63+61+6c 338a:70+66",
   "338b:6e+66 338c:3bc+66 338d:3bc+67 338e:6d+67 338f:6b+67 3390:68+7a 3391:6b+68+7a",
   "3392:6d+68+7a 3393:67+68+7a 3394:74+68+7a 3395:3bc+6c 3396:6d+6c 3397:64+6c 3398:6b+6c",
   "3399:66+6d 339a:6e+6d 339b:3bc+6d 339c:6d+6d 339d:63+6d 339e:6b+6d 339f:6d+6d+32",
   "33a0:63+6d+32 33a1:6d+32 33a2:6b+6d+32 33a3:6d+6d+33 33a4:63+6d+33 33a5:6d+33 33a6:6b+6d+33",
   "33a7:6d+2215+73 33a8:6d+2215+73+32 33a9:70+61 33aa:6b+70+61 33ab:6d+70+61 33ac:67+70+61",
   "33ad:72+61+64 33ae:72+61+64+2215+73 33af:72+61+64+2215+73+32 33b0:70+73 33b1:6e+73",
   "33b2:3bc+73 33b3:6d+73 33b4:70+76 33b5:6e+76 33b6:3bc+76 33b7:6d+76 33b8:6b+76 33b9:6d+76",
   "33ba:70+77 33bb:6e+77 33bc:3bc+77 33bd:6d+77 33be:6b+77 33bf:6d+77 33c0:6b+3c9 33c1:6d+3c9",
   "33c3:62+71 33c4:63+63 33c5:63+64 33c6:63+2215+6b+67 33c8:64+62 33c9:67+79 33ca:68+61",
   "33cb:68+70 33cc:69+6e 33cd:6b+6b 33ce:6b+6d 33cf:6b+74 33d0:6c+6d 33d1:6c+6e 33d2:6c+6f+67",
   "33d3:6c+78 33d4:6d+62 33d5:6d+69+6c 33d6:6d+6f+6c 33d7:70+68 33d9:70+70+6d 33da:70+72",
   "33db:73+72 33dc:73+76 33dd:77+62 33de:76+2215+6d 33df:61+2215+6d 33e0:31+65e5 33e1:32+65e5",
   "33e2:33+65e5 33e3:34+65e5 33e4:35+65e5 33e5:36+65e5 33e6:37+65e5 33e7:38+65e5 33e8:39+65e5",
   "33e9:31+30+65e5 33ea:31+31+65e5 33eb:31+32+65e5 33ec:31+33+65e5 33ed:31+34+65e5",
   "33ee:31+35+65e5 33ef:31+36+65e5 33f0:31+37+65e5 33f1:31+38+65e5 33f2:31+39+65e5",
   "33f3:32+30+65e5 33f4:32+31+65e5 33f5:32+32+65e5 33f6:32+33+65e5 33f7:32+34+65e5",
   "33f8:32+35+65e5 33f9:32+36+65e5 33fa:32+37+65e5 33fb:32+38+65e5 33fc:32+39+65e5",
   "33fd:33+30+65e5 33fe:33+31+65e5 33ff:67+61+6c fb00:66+66 fb01:66+69 fb02:66+6c fb03:66+66+69",
   "fb04:66+66+6c fb05:73+74 fb06:73+74 fb13:574+576 fb14:574+565 fb15:574+56b fb16:57e+576",
   "fb17:574+56d fb4f:5d0+5dc fbdd:6c7+674 fbea:626+627 fbeb:626+627 fbec:626+6d5 fbed:626+6d5",
   "fbee:626+648 fbef:626+648 fbf0:626+6c7 fbf1:626+6c7 fbf2:626+6c6 fbf3:626+6c6 fbf4:626+6c8",
   "fbf5:626+6c8 fbf6:626+6d0 fbf7:626+6d0 fbf8:626+6d0 fbf9:626+649 fbfa:626+649 fbfb:626+649",
   "fc00:626+62c fc01:626+62d fc02:626+645 fc03:626+649 fc04:626+64a fc05:628+62c fc06:628+62d",
   "fc07:628+62e fc08:628+645 fc09:628+649 fc0a:628+64a fc0b:62a+62c fc0c:62a+62d fc0d:62a+62e",
   "fc0e:62a+645 fc0f:62a+649 fc10:62a+64a fc11:62b+62c fc12:62b+645 fc13:62b+649 fc14:62b+64a",
   "fc15:62c+62d fc16:62c+645 fc17:62d+62c fc18:62d+645 fc19:62e+62c fc1a:62e+62d fc1b:62e+645",
   "fc1c:633+62c fc1d:633+62d fc1e:633+62e fc1f:633+645 fc20:635+62d fc21:635+645 fc22:636+62c",
   "fc23:636+62d fc24:636+62e fc25:636+645 fc26:637+62d fc27:637+645 fc28:638+645 fc29:639+62c",
   "fc2a:639+645 fc2b:63a+62c fc2c:63a+645 fc2d:641+62c fc2e:641+62d fc2f:641+62e fc30:641+645",
   "fc31:641+649 fc32:641+64a fc33:642+62d fc34:642+645 fc35:642+649 fc36:642+64a fc37:643+627",
   "fc38:643+62c fc39:643+62d fc3a:643+62e fc3b:643+644 fc3c:643+645 fc3d:643+649 fc3e:643+64a",
   "fc3f:644+62c fc40:644+62d fc41:644+62e fc42:644+645 fc43:644+649 fc44:644+64a fc45:645+62c",
   "fc46:645+62d fc47:645+62e fc48:645+645 fc49:645+649 fc4a:645+64a fc4b:646+62c fc4c:646+62d",
   "fc4d:646+62e fc4e:646+645 fc4f:646+649 fc50:646+64a fc51:647+62c fc52:647+645 fc53:647+649",
   "fc54:647+64a fc55:64a+62c fc56:64a+62d fc57:64a+62e fc58:64a+645 fc59:64a+649 fc5a:64a+64a",
   "fc5b:630+670 fc5c:631+670 fc5d:649+670 fc5e:20+64c+651 fc5f:20+64d+651 fc60:20+64e+651",
   "fc61:20+64f+651 fc62:20+650+651 fc63:20+651+670 fc64:626+631 fc65:626+632 fc66:626+645",
   "fc67:626+646 fc68:626+649 fc69:626+64a fc6a:628+631 fc6b:628+632 fc6c:628+645 fc6d:628+646",
   "fc6e:628+649 fc6f:628+64a fc70:62a+631 fc71:62a+632 fc72:62a+645 fc73:62a+646 fc74:62a+649",
   "fc75:62a+64a fc76:62b+631 fc77:62b+632 fc78:62b+645 fc79:62b+646 fc7a:62b+649 fc7b:62b+64a",
   "fc7c:641+649 fc7d:641+64a fc7e:642+649 fc7f:642+64a fc80:643+627 fc81:643+644 fc82:643+645",
   "fc83:643+649 fc84:643+64a fc85:644+645 fc86:644+649 fc87:644+64a fc88:645+627 fc89:645+645",
   "fc8a:646+631 fc8b:646+632 fc8c:646+645 fc8d:646+646 fc8e:646+649 fc8f:646+64a fc90:649+670",
   "fc91:64a+631 fc92:64a+632 fc93:64a+645 fc94:64a+646 fc95:64a+649 fc96:64a+64a fc97:626+62c",
   "fc98:626+62d fc99:626+62e fc9a:626+645 fc9b:626+647 fc9c:628+62c fc9d:628+62d fc9e:628+62e",
   "fc9f:628+645 fca0:628+647 fca1:62a+62c fca2:62a+62d fca3:62a+62e fca4:62a+645 fca5:62a+647",
   "fca6:62b+645 fca7:62c+62d fca8:62c+645 fca9:62d+62c fcaa:62d+645 fcab:62e+62c fcac:62e+645",
   "fcad:633+62c fcae:633+62d fcaf:633+62e fcb0:633+645 fcb1:635+62d fcb2:635+62e fcb3:635+645",
   "fcb4:636+62c fcb5:636+62d fcb6:636+62e fcb7:636+645 fcb8:637+62d fcb9:638+645 fcba:639+62c",
   "fcbb:639+645 fcbc:63a+62c fcbd:63a+645 fcbe:641+62c fcbf:641+62d fcc0:641+62e fcc1:641+645",
   "fcc2:642+62d fcc3:642+645 fcc4:643+62c fcc5:643+62d fcc6:643+62e fcc7:643+644 fcc8:643+645",
   "fcc9:644+62c fcca:644+62d fccb:644+62e fccc:644+645 fccd:644+647 fcce:645+62c fccf:645+62d",
   "fcd0:645+62e fcd1:645+645 fcd2:646+62c fcd3:646+62d fcd4:646+62e fcd5:646+645 fcd6:646+647",
   "fcd7:647+62c fcd8:647+645 fcd9:647+670 fcda:64a+62c fcdb:64a+62d fcdc:64a+62e fcdd:64a+645",
   "fcde:64a+647 fcdf:626+645 fce0:626+647 fce1:628+645 fce2:628+647 fce3:62a+645 fce4:62a+647",
   "fce5:62b+645 fce6:62b+647 fce7:633+645 fce8:633+647 fce9:634+645 fcea:634+647 fceb:643+644",
   "fcec:643+645 fced:644+645 fcee:646+645 fcef:646+647 fcf0:64a+645 fcf1:64a+647",
   "fcf2:640+64e+651 fcf3:640+64f+651 fcf4:640+650+651 fcf5:637+649 fcf6:637+64a fcf7:639+649",
   "fcf8:639+64a fcf9:63a+649 fcfa:63a+64a fcfb:633+649 fcfc:633+64a fcfd:634+649 fcfe:634+64a",
   "fcff:62d+649 fd00:62d+64a fd01:62c+649 fd02:62c+64a fd03:62e+649 fd04:62e+64a fd05:635+649",
   "fd06:635+64a fd07:636+649 fd08:636+64a fd09:634+62c fd0a:634+62d fd0b:634+62e fd0c:634+645",
   "fd0d:634+631 fd0e:633+631 fd0f:635+631 fd10:636+631 fd11:637+649 fd12:637+64a fd13:639+649",
   "fd14:639+64a fd15:63a+649 fd16:63a+64a fd17:633+649 fd18:633+64a fd19:634+649 fd1a:634+64a",
   "fd1b:62d+649 fd1c:62d+64a fd1d:62c+649 fd1e:62c+64a fd1f:62e+649 fd20:62e+64a fd21:635+649",
   "fd22:635+64a fd23:636+649 fd24:636+64a fd25:634+62c fd26:634+62d fd27:634+62e fd28:634+645",
   "fd29:634+631 fd2a:633+631 fd2b:635+631 fd2c:636+631 fd2d:634+62c fd2e:634+62d fd2f:634+62e",
   "fd30:634+645 fd31:633+647 fd32:634+647 fd33:637+645 fd34:633+62c fd35:633+62d fd36:633+62e",
   "fd37:634+62c fd38:634+62d fd39:634+62e fd3a:637+645 fd3b:638+645 fd3c:627+64b fd3d:627+64b",
   "fd50:62a+62c+645 fd51:62a+62d+62c fd52:62a+62d+62c fd53:62a+62d+645 fd54:62a+62e+645",
   "fd55:62a+645+62c fd56:62a+645+62d fd57:62a+645+62e fd58:62c+645+62d fd59:62c+645+62d",
   "fd5a:62d+645+64a fd5b:62d+645+649 fd5c:633+62d+62c fd5d:633+62c+62d fd5e:633+62c+649",
   "fd5f:633+645+62d fd60:633+645+62d fd61:633+645+62c fd62:633+645+645 fd63:633+645+645",
   "fd64:635+62d+62d fd65:635+62d+62d fd66:635+645+645 fd67:634+62d+645 fd68:634+62d+645",
   "fd69:634+62c+64a fd6a:634+645+62e fd6b:634+645+62e fd6c:634+645+645 fd6d:634+645+645",
   "fd6e:636+62d+649 fd6f:636+62e+645 fd70:636+62e+645 fd71:637+645+62d fd72:637+645+62d",
   "fd73:637+645+645 fd74:637+645+64a fd75:639+62c+645 fd76:639+645+645 fd77:639+645+645",
   "fd78:639+645+649 fd79:63a+645+645 fd7a:63a+645+64a fd7b:63a+645+649 fd7c:641+62e+645",
   "fd7d:641+62e+645 fd7e:642+645+62d fd7f:642+645+645 fd80:644+62d+645 fd81:644+62d+64a",
   "fd82:644+62d+649 fd83:644+62c+62c fd84:644+62c+62c fd85:644+62e+645 fd86:644+62e+645",
   "fd87:644+645+62d fd88:644+645+62d fd89:645+62d+62c fd8a:645+62d+645 fd8b:645+62d+64a",
   "fd8c:645+62c+62d fd8d:645+62c+645 fd8e:645+62e+62c fd8f:645+62e+645 fd92:645+62c+62e",
   "fd93:647+645+62c fd94:647+645+645 fd95:646+62d+645 fd96:646+62d+649 fd97:646+62c+645",
   "fd98:646+62c+645 fd99:646+62c+649 fd9a:646+645+64a fd9b:646+645+649 fd9c:64a+645+645",
   "fd9d:64a+645+645 fd9e:628+62e+64a fd9f:62a+62c+64a fda0:62a+62c+649 fda1:62a+62e+64a",
   "fda2:62a+62e+649 fda3:62a+645+64a fda4:62a+645+649 fda5:62c+645+64a fda6:62c+62d+649",
   "fda7:62c+645+649 fda8:633+62e+649 fda9:635+62d+64a fdaa:634+62d+64a fdab:636+62d+64a",
   "fdac:644+62c+64a fdad:644+645+64a fdae:64a+62d+64a fdaf:64a+62c+64a fdb0:64a+645+64a",
   "fdb1:645+645+64a fdb2:642+645+64a fdb3:646+62d+64a fdb4:642+645+62d fdb5:644+62d+645",
   "fdb6:639+645+64a fdb7:643+645+64a fdb8:646+62c+62d fdb9:645+62e+64a fdba:644+62c+645",
   "fdbb:643+645+645 fdbc:644+62c+645 fdbd:646+62c+62d fdbe:62c+62d+64a fdbf:62d+62c+64a",
   "fdc0:645+62c+64a fdc1:641+645+64a fdc2:628+62d+64a fdc3:643+645+645 fdc4:639+62c+645",
   "fdc5:635+645+645 fdc6:633+62e+64a fdc7:646+62c+64a fdf0:635+644+6d2 fdf1:642+644+6d2",
   "fdf2:627+644+644+647 fdf3:627+643+628+631 fdf4:645+62d+645+62f fdf5:635+644+639+645",
   "fdf6:631+633+648+644 fdf7:639+644+64a+647 fdf8:648+633+644+645 fdf9:635+644+649",
   "fdfa:635+644+649+20+627+644+644+647+20+639+644+64a+647+20+648+633+644+645",
   "fdfb:62c+644+20+62c+644+627+644+647 fdfc:631+6cc+627+644 fe49:20+305 fe4a:20+305 fe4b:20+305",
   "fe4c:20+305 fe70:20+64b fe71:640+64b fe72:20+64c fe74:20+64d fe76:20+64e fe77:640+64e",
   "fe78:20+64f fe79:640+64f fe7a:20+650 fe7b:640+650 fe7c:20+651 fe7d:640+651 fe7e:20+652",
   "fe7f:640+652 fef5:644+622 fef6:644+622 fef7:644+623 fef8:644+623 fef9:644+625 fefa:644+625",
   "fefb:644+627 fefc:644+627 ffe3:20+304 1f101:30+2c 1f102:31+2c 1f103:32+2c 1f104:33+2c",
   "1f105:34+2c 1f106:35+2c 1f107:36+2c 1f108:37+2c 1f109:38+2c 1f10a:39+2c 1f110:28+61+29",
   "1f111:28+62+29 1f112:28+63+29 1f113:28+64+29 1f114:28+65+29 1f115:28+66+29 1f116:28+67+29",
   "1f117:28+68+29 1f118:28+69+29 1f119:28+6a+29 1f11a:28+6b+29 1f11b:28+6c+29 1f11c:28+6d+29",
   "1f11d:28+6e+29 1f11e:28+6f+29 1f11f:28+70+29 1f120:28+71+29 1f121:28+72+29 1f122:28+73+29",
   "1f123:28+74+29 1f124:28+75+29 1f125:28+76+29 1f126:28+77+29 1f127:28+78+29 1f128:28+79+29",
   "1f129:28+7a+29 1f12a:3014+73+3015 1f12d:63+64 1f12e:77+7a 1f14a:68+76 1f14b:6d+76",
   "1f14c:73+64 1f14d:73+73 1f14e:70+70+76 1f14f:77+63 1f16a:6d+63 1f16b:6d+64 1f16c:6d+72",
   "1f190:64+6a 1f200:307b+304b 1f201:30b3+30b3 1f240:3014+672c+3015 1f241:3014+4e09+3015",
   "1f242:3014+4e8c+3015 1f243:3014+5b89+3015 1f244:3014+70b9+3015 1f245:3014+6253+3015",
   "1f246:3014+76d7+3015 1f247:3014+52dd+3015 1f248:3014+6557+3015"]

/-- Gaps and lengths. -/
def hostIgnored : List String :=
  ["ad.1 2a1.1 e0f.2 653.2 55.5 7fb.1 54.5 5.6 10f4.1 cc9b.10 ef.1 a0.1 bcff.4 14cf.8 c2f85.f0"]

/-- Gaps and lengths. -/
def hostAllowed : List String :=
  ["0.41 1a.25 21.7 1.1 1.2 1.1 1.2 4.2 3.1 3.1 17.1 7.21 1.1 1.1 1.1 1.1 1.1 1.1 1.1 1.1 1.1",
   "1.1 1.1 1.1 1.1 1.1 1.1 1.1 1.1 1.1 1.1 1.1 1.1 1.1 1.1 1.1 1.1 3.1 1.2 1.1 1.1 1.1 3.1 1.1",
   "1.1 1.1 2.1 1.1 1.1 1.1 1.1 1.1 1.1 1.1 1.1 1.1 1.1 1.1 1.1 1.1 1.1 1.1 1.1 1.1 1.1 1.1 1.1",
   "1.1 1.1 2.1 1.1 1.1 1.1 2.1 1.1 2.1 3.2 4.1 2.1 3.3 2.1 2.1 1.1 1.1 2.1 1.2 1.1 2.1 3.1 1.1",
   "2.3 1.7 a.1 1.1 1.1 1.1 1.1 1.1 1.1 1.2 1.1 1.1 1.1 1.1 1.1 1.1 1.1 1.1 1.2 4.1 3.1 1.1 1.1",
   "1.1 1.1 1.1 1.1 1.1 1.1 1.1 1.1 1.1 1.1 1.1 1.1 1.1 1.1 1.1 1.1 1.1 1.1 1.1 1.1 1.1 1.1 1.1",
   "1.1 1.1 1.1 1.7 2.1 2.2 1.1 4.1 1.1 1.1 1.1 1.61 9.1f 6.2 5.5b 2.1 3.9 1.20 1.1 1.1 1.1 1.1",
   "3.3 12.1 1b.23 8.1 1.1 1.1 1.1 1.1 1.1 1.1 1.1 1.1 1.1 1.1 1.1 1.1 3.1 2.1 1.1 2.2 33.30 1.1",
   "1.1 1.1 1.1 1.1 1.1 1.1 1.1 1.1 1.1 1.1 1.1 1.1 1.1 1.1 1.1 1.9 1.1 1.1 1.1 1.1 1.1 1.1 1.1",
   "1.1 1.1 1.1 1.1 1.1 1.1 1.1 1.1 1.1 1.1 1.1 1.1 1.1 1.1 1.1 1.1 1.1 1.1 1.1 1.1 2.1 1.1 1.1",
   "1.1 1.1 1.1 1.2 1.1 1.1 1.1 1.1 1.1 1.1 1.1 1.1 1.1 1.1 1.1 1.1 1.1 1.1 1.1 1.1 1.1 1.1 1.1",
   "1.1 1.1 1.1 1.1 1.1 1.1 1.1 1.1 1.1 1.1 1.1 1.1 1.1 1.1 1.1 1.1 1.1 1.1 1.1 1.1 1.1 1.1 1.1",
   "1.1 1.1 1.1 1.1 1.1 1.1 29.2e 1.3 2.3 1.37 8.1b 4.6 11.16 1.58 4.64 1.30 2.3b 2.65 e.3b 2.31",
   "2.f 1.1c 2.1 1.b 5.1f 8.4b 1.75 8.24 1.8 2.2 2.16 1.7 1.1 3.4 2.9 2.2 2.4 8.1 8.4 2.19 2.3",
   "1.6 4.2 2.16 1.7 1.1 2.1 2.2 2.1 1.5 4.2 2.3 3.1 a.1 9.11 a.3 1.9 1.3 1.16 1.7 1.2 1.5 2.a",
   "1.3 1.3 2.1 f.4 2.c 7.7 1.3 1.8 2.2 2.16 1.7 1.2 1.5 2.9 2.2 2.3 7.3 7.5 2.12 a.2 1.6 3.3",
   "1.4 3.2 1.1 1.2 3.2 3.3 3.c 4.5 3.3 1.4 2.1 6.1 e.15 5.d 1.3 1.17 1.10 2.9 1.3 1.4 7.2 1.3",
   "2.1 2.4 2.a 7.16 1.3 1.17 1.a 1.5 2.9 1.3 1.4 7.2 6.2 1.4 2.a 1.3 c.d 1.3 1.33 1.3 1.6 4.10",
   "2.1a 1.3 1.12 3.18 1.9 1.1 2.7 3.1 4.6 1.1 1.8 6.a 2.3 c.32 1.7 4.1d 25.2 1.1 1.5 1.18 1.1",
   "1.c 1.a 2.5 1.1 1.7 1.a 4.2 20.c 1.36 1.4 1.4 1.4 1.4 1.4 1.c 1.3 4.2 1.1 5.7 1.11 1.4 1.4",
   "1.4 1.4 1.4 1.c 1.3 1.f 1.d 25.a0 30.2c 1.62 2.e8 1.4 2.7 1.1 1.4 2.29 1.4 2.21 1.4 2.7 1.1",
   "1.4 2.f 1.39 1.4 2.43 2.20 3.1a 6.56 a.280 1.1c 3.59 7.16 9.18 9.14 c.d 1.3 1.2 c.34 2.28",
   "2.a 6.a 6.b 5.a 6.59 7.2b 5.46 a.1f 1.c 4.c 4.1 3.2a 2.5 b.2c 4.1a 6.b 3.3e 2.41 1.1d 2.b",
   "6.a 6.e 2.1f 31.4d 1.a6 8.3c 3.f 3.33 a.1 35.8 8.2b 5.2c 3.1 b.1 12.1 1c.d 1.22 25.40 1.1",
   "1.1 1.1 1.1 1.1 1.1 1.1 1.1 1.1 1.1 1.1 1.1 1.1 1.1 1.1 1.1 1.1 1.1 1.1 1.1 1.1 1.1 1.1 1.1",
   "1.1 1.1 1.1 1.1 1.1 1.1 1.1 1.1 1.1 1.1 1.1 1.1 1.1 1.1 1.1 1.1 1.1 1.1 1.1 1.1 1.1 1.1 1.1",
   "1.1 1.1 1.1 1.1 1.1 1.1 1.1 1.1 1.1 1.1 1.1 1.1 1.1 1.1 1.1 1.1 1.1 1.1 1.1 1.1 1.1 1.1 1.1",
   "1.1 1.1 1.1 1.1 1.5 2.2 1.1 1.1 1.1 1.1 1.1 1.1 1.1 1.1 1.1 1.1 1.1 1.1 1.1 1.1 1.1 1.1 1.1",
   "1.1 1.1 1.1 1.1 1.1 1.1 1.1 1.1 1.1 1.1 1.1 1.1 1.1 1.1 1.1 1.1 1.1 1.1 1.1 1.1 1.1 1.1 1.1",
   "1.1 1.1 1.1 1.1 1.1 1.1 1.1 1.1 1.9 8.6 a.8 8.8 8.6 a.8 8.8 8.1 1.1 1.1 1.1 1.1 1.1 1.1 33.2",
   "4.1 f.1 9.3 3.2 8.3 1.4 e.1 15.2 2.1 1.5 1.c 3.1 8.3 2.1 2.4 1.1 1.8 3.d 1.7 41.8 1.18 f.21",
   "13.1 3.1 b.1 2.2 5.2 3.1 1.1 1.1 1.1 4.1 b.1 6.4 5.6 30.3 1.5 1.2 4.9c 2.1 2.f8 2.ff 16.b",
   "a0.521 1.67 3.65 1.97 2.20 1.69 30.30 1.1 3.2 1.1 1.1 1.1 4.1 1.2 1.6 5.1 1.1 1.1 1.1 1.1",
   "1.1 1.1 1.1 1.1 1.1 1.1 1.1 1.1 1.1 1.1 1.1 1.1 1.1 1.1 1.1 1.1 1.1 1.1 1.1 1.1 1.1 1.1 1.1",
   "1.1 1.1 1.1 1.1 1.1 1.1 1.1 1.1 1.1 1.1 1.1 1.1 1.1 1.1 1.1 1.1 1.1 1.1 1.1 1.1 1.1 1.8 1.1",
   "1.4 1.1 5.2d 1.1 5.1 2.38 8.1 e.18 9.7 1.7 1.7 1.7 1.7 1.7 1.7 1.7 1.7e 22.1a 1.4 1.53 10e.1",
   "1.33 1.1 3.5 1.56 2.2 2.2 1.5f 6.2b 60.2 e.46 a.10 48.8 2f.1 180.708d 3.37 9.15c 15.1 1.1",
   "1.1 1.1 1.1 1.1 1.1 1.1 1.1 1.1 1.1 1.1 1.1 1.1 1.1 1.1 1.1 1.1 1.1 1.1 1.1 1.1 1.13 1.1 1.1",
   "1.1 1.1 1.1 1.1 1.1 1.1 1.1 1.1 1.1 1.1 1.1 1.1 2.5a 8.22 1.1 1.1 1.1 1.1 1.1 1.1 1.3 1.1",
   "1.1 1.1 1.1 1.1 1.1 1.1 1.1 1.1 1.1 1.1 1.1 1.1 1.1 1.1 1.1 1.1 1.1 1.1 1.1 1.1 1.1 1.1 1.1",
   "1.1 1.1 1.1 1.1 1.1 1.1 1.1 1.8 1.1 1.1 2.1 1.1 1.1 1.1 1.4 1.1 1.2 1.1 1.3 1.1 1.1 1.1 1.1",
   "1.1 1.1 1.1 1.1 1.1 1.1 5.1 5.1 1.1 1.1 1.1 1.1 1.1 1.1 1.1 4.1 1.1 2.1 3.1 1.1 1.1 1.1 1.1",
   "1.1 1a.2 2.33 3.a 6.38 8.46 8.c 6.74 b.1e 3.4e 1.b 4.21 1.37 9.e 2.a 2.67 18.1c a.6 2.6 2.6",
   "9.7 1.7 1.2c 4.9 1.2 54.2e 2.a 6.2ba4 c.17 4.31 2212.2 1.1 1.2 a.1 1.1 1.2 2.3 f4.1 93.11",
   "17b.12 7f.1 2d.3 20.10 15.2 2c.1 18c.c 1.1a 1.13 1.2 1.f 2.e 22.7b 5.3 4.2d 3.58 1.d 3.1",
   "2f.2e 82.1d 3.31 f.1c 4.24 9.1e 5.2b 5.1e 1.25 4.e 52.76 2.a 2e.24 4.28 8.34 b.1 27.b 1.f",
   "1.7 1.2 3.34 c.137 9.16 a.8 18.1 7f.6 2.1 1.2c 1.2 3.1 2.17 1.48 8.9 30.13 1.2 5.21 3.1b 5.1",
   "40.38 4.14 2.32 1.2 5.8 1.3 1.1d 2.3 4.a 7.9 7.40 20.27 4.c 9.36 3.1d 2.1b 5.1a 7.4 c.7",
   "50.49 77.33 7.2e 8.a 6.10 19.1d 8.2 d0.1f 1.2a 1.3 2.2 10.3 37.2c 8.2a 16.1a 26.1c 14.17",
   "9.4e 4.24 9.3e 1.5 d.19 7.a 6.35 1.12 8.27 9.60 1.14 b.12 1.2f 3e.7 1.1 1.4 1.f 1.b 6.3b 5.a",
   "6.4 1.8 2.2 2.16 1.7 1.2 1.5 1.a 2.2 2.3 2.1 6.1 5.7 2.7 3.5 b.a 1.1 2.1 1.26 1.a 1.1 2.1",
   "1.4 1.a 1.2 8.2 1d.5c 1.5 1e.48 8.a a6.36 2.26 22.45 b.a 6.d 13.3a 6.a 6.14 1c.1b 2.f 4.17",
   "b9.3c 84.33 c.8 2.1 2.8 1.2 1.1e 1.2 2.c 9.a 46.8 2.2e 2.b 1b.48 8.53 d.49 7.a b6.22 e.a 6.9",
   "1.2d 1.e a.1d 3.20 2.16 1.e 49.7 1.2 1.2c 3.1 1.2 1.9 8.a 6.6 1.2 1.25 1.2 1.6 7.a 136.19",
   "7.11 1.29 3.1d 55.1 f.32 d.39b 66.6f 1.5 b.c4 a4c.63 d.430 10.16 a.f9b 5.247 1ab9.3a 6c6.239",
   "7.1f 1.a 4.51 1.a 6.1e 2.6 a.46 a.a 1.7 1.15 5.13 1b0.3a e6.3b 65.4b 4.39 7.11 40.5 b.2",
   "e.17f8 8.4d6 29.a 22e7.4 1.7 1.2 1.123 f.1 1d.3 2.1 e.4 8.18c 904.6b 5.d 3.9 7.a 2.4 f60.d6",
   "2a.1b4 4c.2e 2.17 9.74 3c.f6 a.27 2.35 7.e 8.40 6.2a 15.46 7a.14 c.14 c.57 9.19 487.28c f.5",
   "1.f 450.1f 6.6 d5.7 1.11 2.7 1.2 1.5 64.1 70.2d 3.e 2.a 4.2 140.1f 11.3a 5.1 1d0.2a d6.2b",
   "4.1 1e0.7 1.4 1.2 1.f 1.c5 2.10 4b.2a 4.a 4.2 311.44 4c.3d 1b2.2 10e.2c 4.64 c.f 2.f 1.f",
   "1.25 15.5 1f.1 20.1a 3.23 1.1d 38.1a 60.6 9a.3d8 4.11 3.d 3.77 4.5f 6.c 4.1 f.c 4.38 8.a",
   "6.28 8.1e 2.c 4.2 3e.154 c.e 2.d 3.a 5.38 7.f 2.b 6.9 7.93 1.5c 410.a6e0 20.103a 6.de 2.1682",
   "e.1d31 f.26e 11a2.134b 5.1060"]

end SchemaContract.Unicode.Data
