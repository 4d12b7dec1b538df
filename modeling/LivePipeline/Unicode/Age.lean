import LivePipeline.Text.CharSet

/-! The versions of Unicode and the characters that came with each of them. -/

namespace LivePipeline.Unicode

/-- What each version added, the first version in front. -/
def additions : List NamedSet := [
  ⟨["1.1", "v11"],
    "0.1f5 5.1d 39.58 8.2e 2.9 17.45 1b.1 13.1 5 4 6.6 2 2.13 2.2b 2.6 4 2 2 2 2.11 e.b 2.41 2.b
     2.28 a.34 3.1 3.1 4.1b 3.7 3.1 38.25 3.6 2.26 2 27.9 2.8 d.1a 6.4 18 f 4 2.19 6.12 e.d 3.47
     3.4 2.e 2.1d 3.9 208.2 2.34 3.11 3.4 4.18 11.2 2.7 3.1 3.15 2.6 2 4.3 3 2.6 3.1 3.2 a 5.1
     2.4 3.14 8 3.5 5.1 3.15 2.6 2.1 2.1 2.1 3 2.4 5.1 3.2 c.3 2 8.e d.2 2.6 2 2.2 2.15 2.6 2.1
     2.4 3.9 2.2 2.2 3 10 6.9 12.2 2.7 3.1 3.15 2.6 2.1 3.3 3.7 4.1 3.2 9.1 5.1 2.2 5.a 12.1 2.5
     4.2 2.3 4.1 2 2.1 4.1 4.2 4.7 2.2 5.4 4.2 2.3 a 10.b f.2 2.7 2.2 2.16 2.9 2.4 5.6 2.2 2.3
     8.1 a.1 5.9 13.1 2.7 2.2 2.16 2.9 2.4 5.6 2.2 2.3 8.1 8 2.1 5.9 13.1 2.7 2.2 2.16 2.f 5.5
     3.2 2.3 a 9.1 5.9 92.39 5.1c 26.1 2 3.1 2 3 7.3 2.6 2.2 2 2 3.1 2.c 2.2 3.4 2 2.5 3.9 3.1
     1c3.25 b.26 5 5.59 6.43 6.51 c07.9a 6.59 7.15 3.5 3.25 3.5 3.7 2 2 2 2.1e 3.34 2.e 2.d 3.5
     2.12 3.2 2.8 2.2e 2.16 24.6 4.1a 12.a 26.11 1f.38 1b.2f e.5a 16.f1 f 2.78 86.24 1c.a 16.8a
     16.95 b.4f 11.13 7.55 92.3 2.3 3.1b 2.22 2 2.3 4 2.6 3.6 f.1e 4.17 2.d 842.37 8 2.53 5.5
     3.5d 7.27 5.5d 2.f 61.1c 4.23 1d.1b 4.31 10.b 5.2e 2.76 5.62 3.1e 1a02.51a5 405b.1a2d d3.6
     d.4 7.18 2.4 2 2.1 2.1 2.6b 22.16c 11.3f 3.35 29.b 25.3 d.14 5.9 2.12 2.3 5.2 2 2.86 3 2.5d
     3.5d 4.5 3.5 3.5 3.2 4.6 2.6 f.2"⟩,
  ⟨["2.0", "v20"],
    "591.10 2.c 15 93c.47 2.20 8.1a 5.5 2 2.14 4.6 2 ee2 210 8b55.2ba3 1285b.1 ffff.1 ffff.1
     ffff.1 ffff.1 ffff.1 ffff.1 ffff.1 ffff.1 ffff.1 ffff.1 ffff.1 ffff.1 ffff.20001"⟩,
  ⟨["2.1", "v21"], "20ac df50"⟩,
  ⟨["3.0", "v30"],
    "1f6.3 1f.7 3.11 76.4 32 b.4 58.8 14 75 4 2 2 2 1f d 43 d 2b.1 3.3 5d.1 9d c9.2 63.1 6 10
     2b.4 2.d 2.1d 4.1a 36.30 5d2.1 2.11 4.17 2.8 2 3.6 4 5.5 2 2.7 13.2 176 2c 18.2 8 2.2 2.e 3
     31.21 2.4 2.1 2.6 4.3 7.19 1a7.6 2.3e 2 2.3 3.6 2 2.3 3.26 2 2.3 3.1e 2 2.3 3.6 2 2.3 3.6
     2.6 2.16 2.1e 2 2.3 3.6 2.26 2.12 7.1b 24.54 d.275 a.1c 4.50 90.5c 4.9 17.e 2.9 7.57 9.29
     786 19.5 60.2 33.1 56.1 49 68.8 10e 7a 2.1d 8b.1 1ca.7 22 57.1 18f.ff 581.19 2.58 d.d5 1b.b
     3d.2 4 162.17 249.19b5 524b.48c 4.11 3.f 2.b 2.2 2 5657 4dc.2"⟩,
  ⟨["3.1", "v31"],
    "3f4.1 f9db.1f 511.1e 2.3 d.1a b6.25 3.25 cbb3.f5 b.26 4.b3 223.54 2.46 2.1 3 3.1 3.3 2.b 2
     2.3 2.1 2.40 2.3 3.7 2.6 2.1b 2.3 2.4 2 4.6 2.151 5.121 5.31 2801.a6d6 512a.21d b05e4 1f.5f"⟩,
  ⟨["3.2", "v32"],
    "220 12f 14.c 69.1 1d 94.1 3a.1 3.1 3.1 32.f 15f.1 142 946.1 608.c 2.6 c.16 a.13 d.c 2.2 2.1
     8d4 7.4 5 8.4 e 3f.1 33.6 53.e a9.b f3.d 7d 1f.33 11d.13 98.9 59.7 17.1 5b.b 3.9 df.d 5b.1b
     5.f 101.1ff 53c.2 58.1 9.1 5f f1.f 52.e 52.e 71e3.1 11 d 4 556b.3a 392 4.f 36.1 2d ec.1"⟩,
  ⟨["4.0", "v40"],
    "221 13.2 78.1 40.10 51.7 6.2 98.4 205.3 a.8 41.2 96.1 10 2e.2 1e.2 1b5 b9 44 2 89 55.2 e 44
     3c 82.7 c2.1 b20 13.9 107.1c 4.b 5.b 5 4.29 3.4 6c.1f 301.6b 2e8.1 e7 294.1 12f 115.1 75.7
     f.1 45f.d 710.1 32 2c.1 4f.3 a8.3 64.1 20 19c1.3f affe 4a.1 1b8.b 2.19 2.12 2.1 2.e 3.d
     23.7a 6.2 5.2c 4.8 241.1d 2 87.1 27.4f 3.9 357.5 3 2.2b 2.1 4 3 cac1.56 16b c2c3f.ef"⟩,
  ⟨["4.1", "v41"],
    "237.a 117.4 a0.3 f7.1 ab 23.2 44 13 3b.5 f2.1d 210 51 1e8 30 3ea.1 128.1 2 10b 40 40 28 20
     20 20 10 28 18.1 20.19 5e7.29 7.19 7.9 5.1 21.1b 3.1 34d.57 292.1 2.6 32.4 1e.3 36 51 10
     285.a 23d 66.1 13.a 6.f 10f.6 348.5 ed.2e 2.2e 22.6a f.2c b.35 a 11.16 a.6 2.6 2.6 2.6 2.6
     2.6 2.6 2.6 22.17 5.1 3a3.f af 6d28.15 745.16 ea.2b 5245.69 337.9 327.4a 216.23 5.d 62b.3
     2.1 6.7 2.2 2.1a 5.2 5.8 9.8 c7a8.45 45f.1"⟩,
  ⟨["5.0", "v50"],
    "242.d 12c.2 152 2b.5 11.3 a7 206.3a 181.1 2.1 363.1 e.1 e0e.4b 5.2c 248.6 34.1 2ed.3 5e.1
     36 258.b 2cb 115.3 34a.6 6.3 13d.c 8.3 7aa0.3 6.1 11f.37 6089.19 6 16e1.36e 92.62 e.3
     aeed.11 459.1"⟩,
  ⟨["5.1", "v51"],
    "370.3 3.1 58 b8 8d.f e3.4 c.4 21.4 12f.11 1f2.1 df 24 cf 1e.1 6d 6d 1b.1 9.1 15.7 be 7 1e.1
     d.5 4.6 1ec.1 62 4.2 4e 6 3 8.2 5.5 1b.3f 5.1 80b 2d6.2a 4.b 47.37 4.e 4.32 14c.1b b6.3
     5b.5 165 8c 5f 36.3 515 16.9 4.3 109 20.3 32c.4 5.28 4.4 119.2 2.2 5.5 163.1f 19.3 3.12 2fd
     a3.13 6dd9.7 53d.12b 15.1f 3.11 9.1b 84.4 3.6a 6f.4 81.44 a.b 27.53 c a1.36 a.d 3.9 3.3
     53c5.2 36a.b 35.2d 83.1c 4.30 650.19 6 c7ea 1ed7.2b 5.63"⟩,
  ⟨["5.2", "v52"],
    "524.1 2db.2d 3.e c2 4e 7 24.1 81 5da.3 c2.3 bd.4 45.4 53.5 201 277.8 231.45 b5.1 2f 46.3e
     2.1c 3.a 7.9 7.d 223.22 10b 2b9.2 98.2 37 25f 2b6.1 1e.2 5.9 2.12 2 5.17 58 3fe.4 117 e.1
     6c.6 140 413.b 6d75.7 505.2f 1a1.57 139.9 a7.1b 65.1c 4.4d 2.a 5.1 81.1b 5.42 19.4 e1.2d
     3.9 2bb7.16 5.30 2270.2 dd3.15 2.8 bb.1 145.1f 81.35 4.1c 3.1a 6.7 81.48 218.1e 202.41
     1f3f.42e bcd2.a 6.1e 3 c 2 3 4 4.4 9 8 1a 2.1 3 b.3 3 70 10.21 f.8 b4b8.1034"⟩,
  ⟨["6.0", "v60"],
    "526.1 f9 3f 1e1.1b 3 dc.1 14 7.1 1c.4 1fb.5 1b2 11 14 23e.3 4a.1 383.1 862.33 9.3 1fd 299.7
     1d 330.a 2db 14 2.3 1e 5.1 1d 24 2 5.2 a.1 35.2 19 f f.1 5a1 f 439.2 74a6.1 12c.1 2.1 f.9
     51 307.5 3.5 3.5 a.6 2.6 5084.f 143f.4d 5.1d 5791.238 45c8.1 409f.e 3.d 3.e 2.e 51 2.a 2
     2.1 2.2 2.2 6.7 2.6 2.9 7.8 2 3.1 2.9 5.1 2.9 4c.19 2.1 30.8 16.1 af.20 10.5 2.45 4.13 d.24
     2.4 16.10 10.3e 2 2.b5 2.3 4.3d 13.17 94.4 2.f 2.2 2 2 2 2.2 2.5 3.3 2 3.3 2.b 5.a 31.45
     3b.73 bfcd.dd"⟩,
  ⟨["6.1", "v61"],
    "58f 75 29c 2.a 38.1a 1f2 3ee.1 1e8 6 30.2 aac.2 d.5 101.7 2c.3 ad5 2 525.1 34 6 39.1 cb.9
     7191 6a8.7 24 f3.1 17 4e.1 2e7.16 4f38.1 f51.37 7.1 711.18 8.9 7.34 2.d 3d.48 8.9 4a7.37
     9.9 5837.44 c.2e 11.10 7e61.3 2.1a 2.1 2 3 2.9 2.3 2 2 7 5 2 2 2.2 2.1 2 3 2 2 2 2 2.1 2
     3.3 2.6 2.3 2.3 2 2.9 2.10 6.2 2.4 2.10 35.1 279.1 3d5.3 bd 11 4 2 2 2 4 7.1 5 2.1 5"⟩,
  ⟨["6.2", "v62"], "20ba"⟩,
  ⟨["6.3", "v63"], "61c 1a4a.3"⟩,
  ⟨["7.0", "v70"],
    "37f 1a9.7 5e.1 77 29c c.5 4d 79 8 280 34 4d 80 e5.9 902.7 225.1 192.e 23a.1 ee.e 2c6.2
     337.6 306 44d.2 b.19 3.1f 3.21 4.b 2.7 26b.6 7856.5 f7.b c.2 3.1 46 1e9.1e 7e.3 b1.2f 5.1
     52c2.6 35e.1 14 140.1b 24 31.2a 186.27 9.33 c 91.136 a.15 b.7 f9.3e 9.8 1d1.1f 21.26 5.b
     8a.11 8.3 d.6 4d0 d1.26 57 d 7.13 c.11 2.2a 73.3a 6.9 8.2 2.7 3.1 3.15 2.6 2.1 2.4 3.8 3.1
     3.2 a 6.6 3.6 4.4 10c.47 9.9 a7.35 3.11 37.44 c.9 247.52 d 1c1.38 877.29 cb.b 6 45cc.1e 2.9
     5.1 61.1d 3.5 b.45 b.9 2.6 2.14 6.12 5071.6a 6.c 4.8 8.9 3.7 2b5d.c4 3.f 7e9 21.15 16.1
     215.b a 47 17.b 26 6.3 6.b 12.6 48 2 b7 5.1 40.1 5.6 1e.11 2.28 2.55 47.1 e.2f 47.9 11.c
     4.3 8d.54 2c.b 5.37 9.9 7.27 9.1d"⟩,
  ⟨["8.0", "v80"],
    "8b3.1 2f 216 161 105 696 3.5 cc1 cc.1 a61.3 73de.8 6c9 f1 23.5 145.1 263.3 d.4f 526f.1
     ab1.12 2.1 6.4 bd.1 3.f 3.2d 281.32 e.32 8.5 4ca.3 f.4 a1.6 2 2.3 2.e 2.a 57 50 27a.13
     123.19 4.e 5.f c5a e7.c3 1ebd.246 8b98.a 618.28b 10.4 2.e 187e.2 4f.1 50.4 25.7 100 4c.4
     f4.1 8c 240.8 68.4 3c be60.1681"⟩,
  ⟨["9.0", "v90"],
    "8b6.7 17.e 39e cf 5.2 2.6 18.2 f08.8 173 600.3 a45.1 796a 117 58c8.1 322.23 5.23 d43 1c2.59
     2 2 203.c 594.8 2.2c 2.d b.1c 4.1f 3.15 2.d 532a 20.17ec 14.2f2 550e.6 2.10 3.6 2.1 2.4
     8d6.4a 6.9 5.1 83c.11 8f 33f 2a 12d.1 22.2 223.5 2.7 9 3.b 2.b 5.e 27.c"⟩,
  ⟨["10.0", "v100"],
    "860.a 192.1 fd.5 201 3b.1 fbb ff.3 2c6 340 7d3 273.4 2e5 6ea8.14 6343.2 16d1.47 9.33 3.16
     2.4 25e.6 2.1 2.2b 4 2.1 2.8 9.9 5288 4021.11c 52.18b 3f65.5 46e.1 23.1 208.b 14 9.7 2.1 1a
     13.c 27.5 39.16 d4ca.1d30"⟩,
  ⟨["11.0", "v110"],
    "560 28 67 20e.2 d4 12b 78 18e 80 bf4 418.2a 3.2 efb.2 17.18 5.e 24c.4 2e1 6ebc.4 7c0 9.1
     145.1 6135.1 13 2b8.27 9.9 1c7.27 9.29 174 77.2 1f5 123 2bc e6.3b 262 2c3.5 2.1 2.24 2.1
     2.5 8.9 137.18 4f48.5a 1953.4 4aef.13 7f.6 18f9.43 47b 5ca dc.3 175.2 1d.4 3.3 4 2.3 19.a
     e.9 8.1 25.18 61.d"⟩,
  ⟨["12.0", "v120"],
    "c77 20f 3 3 2.5 5 8 8.1 3 e e40 ecf 36 250 796b.5 3.4 3a0.1 6479.16 469 259 2e8.7 3.2d 3.a
     a0.1 53b.31 e 1431.8 3b0d.5 5 30.8 5b.1 180f.5 2959.2 12.3 2f99.2c 4.d 3.9 5.1 171.39 6 64c
     3b6.3c 42f 569 25 e6.b 122.2 30 32 a 2a.5 4.1 b.5 4.7 3.2 31.53 1d.3 5.2 6.2 e.5"⟩,
  ⟨["12.1", "v121"], "32ff"⟩,
  ⟨["13.0", "v130"],
    "8be.9 28e 1af 7d d3e.1 10d7 2b9.2 369.4 1bf7.9 5231.c 7cb.3 2b.1 36 33c.3 5631 ce4.29 2.2
     3.1 ff.1b 17c 87.1 28b 6.1 49f.6 3 3.7 2.1 2.1d 2.1 3.b a.9 657 5034 c.1 1b02.1e2 2b.8
     6405.2 5e.2 3e 529.1 24.1 1b4.1 5b 66 5.1 2b.1 7.2 1e a9 f.3 10.12 8.6 a.2 e.6 2a.92 2.36
     26.9 aade.6 5923.134a"⟩,
  ⟨["14.0", "v140"],
    "61d 253.1e 2.1 7.7 16 13.a 36a 21 80 a30 8 a f0 2b2.d 7e 31.1 27c 2c6 b6f 30 1f4.a 71a0.2
     7c1.1 f.1 2 2.4 19.2 53ce 17e.f 80 2f.1 771.a 2.e 2.6 2.1 2.a 2.e 2.6 2.1 1c4.5 2.29 2.8
     7b6.19 e7.5 4d 5f7 87.6 36a.f 14d1.62 3a7e.4e 2.9 4527.3 2.6 2.1 121.3 1dde.2d 3.16 a.73
     226.1 d16.1e 372.1e 532.6 2.3 2.1 2.e edf.2 111 189 53 af.1 2d.3 b.3 9.2 12.2 7.7 9.6
     abe8.1 1056.3"⟩,
  ⟨["15.0", "v150"],
    "cf3 1db 1002f.2 340.2 8bf.9 3f7.10 2.28 4.1b 14d6 a.1c 7cdd 23 216b.13 c52.5 106.3d 22
     441.29 11e3 98.2 5.4 5a 29c.2 10.1 25.2 c.2 2 f.1 b.1 d f.1 bc41 5c17.105f"⟩,
  ⟨["15.1", "v151"], "2ffc.3 1f0 2ba01.26d"⟩,
  ⟨["16.0", "v160"],
    "897 12b7.1 30 10a.1 79d.2 dbb.1 75e6.2 d.2 5de4.33 74d.25 4.1c 9.1 133.2 38 484.9 2 3 2.25
     2.9 2 3 2.3 2.9 2.1 9.1 2ee.13 4dd.21 f.9 361 1506.f9a 1d06.39 c07.39 1f86 3f01.f9 7.1b3
     171d.2a 5 12b3.9 5.1 1c8 6 2f 8 16 3 a e2.24"⟩]

end LivePipeline.Unicode
