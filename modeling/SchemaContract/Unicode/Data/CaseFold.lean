/-!
# Simple case foldings

Each word gives a code point and the one it is mapped to, or five numbers: the first code point, how
many there are, the step between them, the image of the first one and the step between the images.
All numbers are hexadecimal.
-/

namespace SchemaContract.Unicode.Data

def caseFolds : List String :=
  ["41.1a.1.61.1 b5.3bc c0.17.1.e0.1 d8.7.1.f8.1 100.18.2.101.2 132.3.2.133.2 139.8.2.13a.2",
   "14a.17.2.14b.2 178.ff 179.3.2.17a.2 17f.73 181.253 182.2.2.183.2 186.254 187.188",
   "189.2.1.256.1 18b.18c 18e.1dd 18f.2.1.259.2 191.192 193.260 194.263 196.269 197.268 198.199",
   "19c.26f 19d.272 19f.275 1a0.3.2.1a1.2 1a6.280 1a7.1a8 1a9.283 1ac.1ad 1ae.288 1af.1b0",
   "1b1.2.1.28a.1 1b3.2.2.1b4.2 1b7.292 1b8.1b9 1bc.1bd 1c4.2.1.1c6.0 1c7.2.1.1c9.0",
   "1ca.2.1.1cc.0 1cd.8.2.1ce.2 1de.9.2.1df.2 1f1.2.1.1f3.0 1f4.1f5 1f6.195 1f7.1bf",
   "1f8.14.2.1f9.2 220.19e 222.9.2.223.2 23a.2c65 23b.23c 23d.19a 23e.2c66 241.242 243.180",
   "244.289 245.28c 246.5.2.247.2 345.3b9 370.2.2.371.2 376.377 37f.3f3 386.2.2.3ac.1",
   "389.2.1.3ae.1 38c.2.2.3cc.1 38f.3ce 391.11.1.3b1.1 3a3.9.1.3c3.1 3c2.3c3 3cf.3d7 3d0.3b2",
   "3d1.3b8 3d5.3c6 3d6.3c0 3d8.c.2.3d9.2 3f0.3ba 3f1.3c1 3f4.3b8 3f5.3b5 3f7.3f8 3f9.3f2",
   "3fa.3fb 3fd.3.1.37b.1 400.10.1.450.1 410.20.1.430.1 460.11.2.461.2 48a.1b.2.48b.2 4c0.4cf",
   "4c1.7.2.4c2.2 4d0.30.2.4d1.2 531.26.1.561.1 10a0.26.1.2d00.1 10c7.2d27 10cd.2d2d",
   "13f8.6.1.13f0.1 1c80.2.1.432.2 1c82.43e 1c83.2.1.441.1 1c85.442 1c86.44a 1c87.463 1c88.a64b",
   "1c89.1c8a 1c90.2b.1.10d0.1 1cbd.3.1.10fd.1 1e00.4b.2.1e01.2 1e9b.1e61 1e9e.df",
   "1ea0.30.2.1ea1.2 1f08.8.1.1f00.1 1f18.6.1.1f10.1 1f28.8.1.1f20.1 1f38.8.1.1f30.1",
   "1f48.6.1.1f40.1 1f59.4.2.1f51.2 1f68.8.1.1f60.1 1f88.8.1.1f80.1 1f98.8.1.1f90.1",
   "1fa8.8.1.1fa0.1 1fb8.2.1.1fb0.1 1fba.2.1.1f70.1 1fbc.1fb3 1fbe.3b9 1fc8.4.1.1f72.1 1fcc.1fc3",
   "1fd3.390 1fd8.2.1.1fd0.1 1fda.2.1.1f76.1 1fe3.3b0 1fe8.2.1.1fe0.1 1fea.2.1.1f7a.1 1fec.1fe5",
   "1ff8.2.1.1f78.1 1ffa.2.1.1f7c.1 1ffc.1ff3 2126.3c9 212a.6b 212b.e5 2132.214e",
   "2160.10.1.2170.1 2183.2184 24b6.1a.1.24d0.1 2c00.30.1.2c30.1 2c60.2c61 2c62.26b 2c63.1d7d",
   "2c64.27d 2c67.3.2.2c68.2 2c6d.251 2c6e.271 2c6f.2.1.250.2 2c72.2c73 2c75.2c76 2c7e.2.1.23f.1",
   "2c80.32.2.2c81.2 2ceb.2.2.2cec.2 2cf2.2cf3 a640.17.2.a641.2 a680.e.2.a681.2 a722.7.2.a723.2",
   "a732.1f.2.a733.2 a779.2.2.a77a.2 a77d.1d79 a77e.5.2.a77f.2 a78b.a78c a78d.265",
   "a790.2.2.a791.2 a796.a.2.a797.2 a7aa.266 a7ab.25c a7ac.261 a7ad.26c a7ae.26a a7b0.29e",
   "a7b1.287 a7b2.29d a7b3.ab53 a7b4.8.2.a7b5.2 a7c4.a794 a7c5.282 a7c6.1d8e a7c7.2.2.a7c8.2",
   "a7cb.264 a7cc.a7cd a7d0.a7d1 a7d6.3.2.a7d7.2 a7dc.19b a7f5.a7f6 ab70.50.1.13a0.1 fb05.fb06",
   "ff21.1a.1.ff41.1 10400.28.1.10428.1 104b0.24.1.104d8.1 10570.13.2.10597.2 10571.5.2.10598.2",
   "1057d.7.2.105a4.2 1058d.3.2.105b4.2 10595.105bc 10c80.33.1.10cc0.1 10d50.16.1.10d70.1",
   "118a0.20.1.118c0.1 16e40.20.1.16e60.1 1e900.22.1.1e922.1"]

end SchemaContract.Unicode.Data
