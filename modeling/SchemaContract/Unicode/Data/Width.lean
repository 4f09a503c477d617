/-!
# Wide characters

Characters of two columns, and those of them that a variation selector makes narrow.

Each word gives the number of code points that are skipped and the number of those that follow and
have the property, both in hexadecimal.
-/

namespace SchemaContract.Unicode.Data

def wide : List String :=
  ["1100.60 11ba.2 d.2 be.4 3.1 2.1 209.2 15.2 1a.8 10.c 2b.1 a.6 3.1 d.1 8.2 11.2 5.2 8.1 5.1",
   "15.1 7.2 1.1 4.1 2.1 7.1 4.2 1c.1 23.1 1.1 4.3 1.1 3d.3 18.1 e.1 35b.2 33.1 4.1 32a.1a 1.59",
   "c.d6 1a.4f 2.56 2.67 5.2b 1.5e 1.56 9.30 1.28 8.723d 3.37 499.1d 283.2ba4 215c.200 310.a",
   "16.23 1.13 1.4 95.60 7f.7 6ff9.5 b.2 e.17f8 8.4d6 29.a 22e7.4 1.7 1.2 1.123 f.1 1d.3 2.1 e.4",
   "8.18c 2004.57 9.17 1c8d.1 ca.1 be.1 2.a 65.3 d.2c 4.9 7.2 e.6 9a.21 c.9 1.46 1.16 c.2b 4.5",
   "c.11 3.1 3.47 1.1 1.bb 2.3f d.4 1.18 12.1 1a.2 d.1 56.55 30.46 6.1 3.3 2.3 4.4 b.2 7.9 e3.c",
   "4.1 11b.2f 1.a 1.b9 70.d 3.a 5.38 7.f 2.b 6.9 507.fffe 2.fffe"]

def narrowed : List String :=
  ["231a.2 cd.2 8.1 209.2 15.2 32.c 2b.1 13.1 d.1 8.2 11.2 5.2 e.1 15.1 7.2 1.1 4.1 2.1 55.1 3.1",
   "3c3.2 33.1 4.1 1c4ae.1 308.3 5.1 6.1 5b.1 1a.1 13.1 4.3 13.1 1.1 1.1 3.1 15.1 c.1 1a.1 c.1",
   "9.1 6.1 1b.1 3.4 3.2 4.1 16.1 12.1 25.1 c.1 2.1 7.1 3.1 b.1 e.1 4.1 4.3 3.4 9.1 1.3 c.1 4.1",
   "4.2 3c.18 a8.1 76.1 5.1 3.1 2.1 3.1 14.1 4.1 6.2 1.1"]

end SchemaContract.Unicode.Data
