import RelayConsole.Unicode.Table

namespace RelayConsole

/-- What a character beyond ASCII becomes in a domain name: `v` stays, `i` is dropped, `m` becomes the given
characters, `s` counts on from the given one, `p` is a run of pairs whose first becomes its second.
All others are refused. -/
def Unicode.mappingTable : Array Unicode.Row := Unicode.readTable
  "a0m:20 v6 m:20.308 v m:61 v1 i v m:20.304 v1 s1:32 m:20.301 m:3bc v1 m:20.327 m:31 m:6f v
    m:31.2044.34 m:31.2044.32 m:33.2044.34 v s16:e0 v s6:f8 v20 p2f m:69.307 v m1:69.6a p3 v p5
    m1:6c.b7 p7 m:2bc.6e p2d m:ff p5 m:73 v m:253 p3 m:254 m:188 v s1:256 m:18c v1 m:1dd m:259 m:25b
    m:192 v m:260 m:263 v m:269 m:268 m:199 v2 m:26f m:272 v m:275 p5 m:280 m:1a8 v m:283 v1 m:1ad v
    m:288 m:1b0 v s1:28a p3 m:292 m:1b9 v2 m:1bd v6 m2:64.17e m2:6c.6a m2:6e.6a pf v p11 v m2:64.7a
    m:1f5 v m:195 m:1bf p27 m:19e v p11 v5 m:2c65 m:23c v m:19a m:2c66 v1 m:242 v m:180 m:289 m:28c
    p9 v5f m:68 m:266 m:6a m:72 m:279 m:27b m:281 m:77 m:79 v1e m:20.306 m:20.307 m:20.30a m:20.328
    m:20.303 m:20.30b v1 m:263 m:6c m:73 m:78 m:295 v5a s1:300 v m:313 m:308.301 m:3b9 v8 i v1f p3
    m:2b9 v m:377 v 2m:20.3b9 v2 m:3b m:3f3 4m:20.301 m:20.308.301 m:3ac m:b7 s2:3ad 1m:3cc 1s1:3cd
    v s10:3b1 1s8:3c3 v22 m:3d7 m:3b2 m:3b8 m:3c5 m:3cd m:3cb m:3c6 m:3c0 v p17 m:3ba m:3c1 m:3c3 v
    m:3b8 m:3b5 v m:3f8 v m:3c3 m:3fb v1 s2:37b sf:450 s1f:430 v2f p21 v7 p35 m:4cf pd v p5f
    1s25:561 2v2d m:565.582 v2 2v2 1v36 8v1a 4v5 11v15 1v57 m:627.674 m:648.674 m:6c7.674 m:64a.674
    v63 1v2f 2v3a 2v64 ev3a 2v30 2ve 1v1b 2v 1va 5v1f 7v4a 1v74 m:915.93c m:916.93c m:917.93c
    m:91c.93c m:921.93c m:922.93c m:92b.93c m:92f.93c v23 1v7 2v1 2v15 1v6 1v 3v3 2v8 2v1 2v3 8v
    4m:9a1.9bc m:9a2.9bc 1m:9af.9bc v3 2v18 2v2 1v5 4v1 2v15 1v6 1v m:a32.a3c 1v m:a38.a3c 1v1 2v
    1v4 4v1 2v2 3v 7m:a16.a3c m:a17.a3c m:a1c.a3c v 1m:a2b.a3c 7v10 av2 1v8 1v2 1v15 1v6 1v1 1v4 2v9
    1v2 1v2 2v fv3 2vb 7v6 1v2 1v7 2v1 2v15 1v6 1v1 1v4 2v8 2v1 2v2 7v2 4m:b21.b3c m:b22.b3c 1v4
    2v11 av1 1v5 3v2 1v3 3v1 1v 1v1 3v1 3v2 3vb 4v4 3v2 1v3 2v 6v ev14 5vc 1v2 1v16 1vf 2v8 1v2 1v3
    7v1 1v2 1v1 2v3 2v9 7v15 1v2 1v16 1v9 1v4 2v8 1v2 1v3 7v1 5v2 1v3 2v9 1v2 cvc 1v2 1v32 1v2 1v5
    4vf 2v19 1v2 1v11 3v17 1v8 1v 2v6 3v 4v5 1v 1v7 6v9 2v2 cv31 m:e4d.e32 v6 4v1c 25v1 1v 1v4 1v17
    1v 1vb m:ecd.eb2 v9 2v4 1v 1v6 1v9 2m:eab.e99 m:eab.ea1 v1 20vb m:f0b v35 m:f42.fb7 v3 1v3
    m:f4c.fb7 v3 m:f51.fb7 v3 m:f56.fb7 v3 m:f5b.fb7 vb m:f40.fb5 v2 4v1 m:f71.f72 v m:f71.f74
    m:fb2.f80 m:fb2.f71.f80 m:fb3.f80 m:fb3.f71.f80 v6 m:f71.f80 v10 m:f92.fb7 v3 1v3 m:f9c.fb7 v3
    m:fa1.fb7 v3 m:fa6.fb7 v3 m:fab.fb7 vb m:f90.fb5 v2 1ve 1vc 25v9f s25:2d00 1m:2d27 5m:2d2d 2v2b
    m:10dc v61 i1 ve7 1v3 2v6 1v 1v3 2v28 1v3 2v20 1v3 2v6 1v 1v3 2ve 1v38 1v3 2v42 2v1f 3v19 6v55
    2s5:13f0 2v27f 1v1b 3v58 7v15 9v17 9v13 cvc 1v2 1v1 cv33 i1 v27 2v9 6v9 6va i4 v9 6v58 7v2a 5v45
    av1e 1vb 4vb 4v 3v29 2v4 bv2b 4v19 6va 3v3d 2v40 1v1c 2va 6v9 6vd 2v2d 2vb 14v4c 1va5 8v3b 3ve
    3v32 m:432 m:434 m:43e s1:441 m:442 m:44a m:463 m:a64b m:1c8a v 5s2a:10d0 2s2:10fd v7 8v2a 5v2b
    m:61 m:e6 m:62 v s1:64 m:1dd s7:67 v m:6f m:223 m:70 m:72 s1:74 m:77 m:61 s1:250 m:1d02 m:62
    s1:64 m:259 s1:25b m:67 v m:6b m:6d m:14b m:6f m:254 s1:1d16 m:70 s1:74 m:1d1d m:26f m:76 m:1d25
    s2:3b2 s1:3c6 m:69 m:72 s1:75 s1:3b2 m:3c1 s1:3c6 vc m:43d v21 m:252 m:63 m:255 m:f0 m:25c m:66
    m:25f m:261 m:265 s2:268 m:1d7b m:29d m:26d m:1d85 m:29f m:271 m:270 s3:272 m:278 s1:282 m:1ab
    s1:289 m:1d1c s1:28b m:7a s2:290 m:3b8 v3f p95 v3 m:61.2be m:1e61 v1 m:df v p5f v7 s7:1f00 v5
    2s5:1f10 2v7 s7:1f20 v7 s7:1f30 v5 2s5:1f40 2v7 1m:1f51 1m:1f53 1m:1f55 1m:1f57 v7 s7:1f60 v
    m:3ac v m:3ad v m:3ae v m:3af v m:3cc v m:3cd v m:3ce 2m:1f00.3b9 m:1f01.3b9 m:1f02.3b9
    m:1f03.3b9 m:1f04.3b9 m:1f05.3b9 m:1f06.3b9 m:1f07.3b9 m:1f00.3b9 m:1f01.3b9 m:1f02.3b9
    m:1f03.3b9 m:1f04.3b9 m:1f05.3b9 m:1f06.3b9 m:1f07.3b9 m:1f20.3b9 m:1f21.3b9 m:1f22.3b9
    m:1f23.3b9 m:1f24.3b9 m:1f25.3b9 m:1f26.3b9 m:1f27.3b9 m:1f20.3b9 m:1f21.3b9 m:1f22.3b9
    m:1f23.3b9 m:1f24.3b9 m:1f25.3b9 m:1f26.3b9 m:1f27.3b9 m:1f60.3b9 m:1f61.3b9 m:1f62.3b9
    m:1f63.3b9 m:1f64.3b9 m:1f65.3b9 m:1f66.3b9 m:1f67.3b9 m:1f60.3b9 m:1f61.3b9 m:1f62.3b9
    m:1f63.3b9 m:1f64.3b9 m:1f65.3b9 m:1f66.3b9 m:1f67.3b9 v1 m:1f70.3b9 m:3b1.3b9 m:3ac.3b9 1v
    m:1fb6.3b9 s1:1fb0 m:1f70 m:3ac m:3b1.3b9 m:20.313 m:3b9 m:20.313 m:20.342 m:20.308.342
    m:1f74.3b9 m:3b7.3b9 m:3ae.3b9 1v m:1fc6.3b9 m:1f72 m:3ad m:1f74 m:3ae m:3b7.3b9 m:20.313.300
    m:20.313.301 m:20.313.342 v2 m:390 2v1 s1:1fd0 m:1f76 m:3af 1m:20.314.300 m:20.314.301
    m:20.314.342 v2 m:3b0 v3 s1:1fe0 m:1f7a m:3cd m:1fe5 m:20.308.300 m:20.308.301 m:60 2m:1f7c.3b9
    m:3c9.3b9 m:3ce.3b9 1v m:1ff6.3b9 m:1f78 m:3cc m:1f7c m:3ce m:3c9.3b9 m:20.301 m:20.314 1ma:20 i
    v1 2v m:2010 v4 m:20.333 vb 3v 7m:20 v2 m:2032.2032 m:2032.2032.2032 v m:2035.2035
    m:2035.2035.2035 v3 m:21.21 v m:20.305 v7 m:3f.3f m:3f.21 m:21.3f vc m:2032.2032.2032.2032 v6
    m:20 i4 5i5 m:30 m:69 2s5:34 m:2b m:2212 m:3d s1:28 m:6e s9:30 m:2b m:2212 m:3d s1:28 1m:61 m:65
    m:6f m:78 m:259 m:68 s3:6b m:70 s1:73 3v7 m:72.73 v18 ev20 fm:61.2f.63 m:61.2f.73 m:63 m:b0.63 v
    m:63.2f.6f m:63.2f.75 m:25b v m:b0.66 s1:67 m2:68 m:127 m1:69 m1:6c v m:6e m:6e.6f v1 s2:70
    m1:72 v1 m:73.6d m:74.65.6c m:74.6d v m:7a v m:3c9 v m:7a v m:6b m:e5 s1:62 v m1:65 m:66 m:214e
    m:6d m:6f s3:5d0 m:69 v m:66.61.78 m:3c0 m1:3b3 m:3c0 m:2211 v3 m1:64 m:65 s1:69 v5 m:31.2044.37
    m:31.2044.39 m:31.2044.31.30 m:31.2044.33 m:32.2044.33 m:31.2044.35 m:32.2044.35 m:33.2044.35
    m:34.2044.35 m:31.2044.36 m:35.2044.36 m:31.2044.38 m:33.2044.38 m:35.2044.38 m:37.2044.38
    m:31.2044 m:69 m:69.69 m:69.69.69 m:69.76 m:76 m:76.69 m:76.69.69 m:76.69.69.69 m:69.78 m:78
    m:78.69 m:78.69.69 m:6c s1:63 m:6d m:69 m:69.69 m:69.69.69 m:69.76 m:76 m:76.69 m:76.69.69
    m:76.69.69.69 m:69.78 m:78 m:78.69 m:78.69.69 m:6c s1:63 m:6d v2 m:2184 v4 m:30.2044.33 v1 4v9b
    m:222b.222b m:222b.222b.222b v m:222e.222e m:222e.222e.222e vf7 s1:3008 vfe 16va 15s8:31 m:31.30
    m:31.31 m:31.32 m:31.33 m:31.34 m:31.35 m:31.36 m:31.37 m:31.38 m:31.39 m:32.30 m:28.31.29
    m:28.32.29 m:28.33.29 m:28.34.29 m:28.35.29 m:28.36.29 m:28.37.29 m:28.38.29 m:28.39.29
    m:28.31.30.29 m:28.31.31.29 m:28.31.32.29 m:28.31.33.29 m:28.31.34.29 m:28.31.35.29
    m:28.31.36.29 m:28.31.37.29 m:28.31.38.29 m:28.31.39.29 m:28.32.30.29 14m:28.61.29 m:28.62.29
    m:28.63.29 m:28.64.29 m:28.65.29 m:28.66.29 m:28.67.29 m:28.68.29 m:28.69.29 m:28.6a.29
    m:28.6b.29 m:28.6c.29 m:28.6d.29 m:28.6e.29 m:28.6f.29 m:28.70.29 m:28.71.29 m:28.72.29
    m:28.73.29 m:28.74.29 m:28.75.29 m:28.76.29 m:28.77.29 m:28.78.29 m:28.79.29 m:28.7a.29 s19:61
    s19:61 m:30 v520 m:222b.222b.222b.222b v66 m:3a.3a.3d m:3d.3d m:3d.3d.3d v64 m:2add.338 v96 2v89
    s2f:2c30 v2f m:2c61 v m:26b m:1d7d m:27d v1 p5 m:251 m:271 m:250 m:252 v m:2c73 v1 m:2c76 v5
    m:6a m:76 s1:23f p63 v6 p3 v2 m:2cf3 v 5v2c 1v 5v 2v37 7m:2d61 v ev17 9v6 1v6 1v6 1v6 1v6 1v6
    1v6 1v6 1v7d 22v19 1v3 m:6bcd v52 m:9f9f cm:4e00 m:4e28 m:4e36 m:4e3f m:4e59 m:4e85 m:4e8c
    m:4ea0 m:4eba m:513f m:5165 m:516b m:5182 m:5196 m:51ab m:51e0 m:51f5 m:5200 m:529b m:52f9
    m:5315 m:531a m:5338 m:5341 m:535c m:5369 m:5382 m:53b6 m:53c8 m:53e3 m:56d7 m:571f m:58eb
    m:5902 m:590a m:5915 m:5927 m:5973 m:5b50 m:5b80 m:5bf8 m:5c0f m:5c22 m:5c38 m:5c6e m:5c71
    m:5ddb m:5de5 m:5df1 m:5dfe m:5e72 m:5e7a m:5e7f m:5ef4 m:5efe m:5f0b m:5f13 m:5f50 m:5f61
    m:5f73 m:5fc3 m:6208 m:6236 m:624b m:652f m:6534 m:6587 m:6597 m:65a4 m:65b9 m:65e0 m:65e5
    m:66f0 m:6708 m:6728 m:6b20 m:6b62 m:6b79 m:6bb3 m:6bcb m:6bd4 m:6bdb m:6c0f m:6c14 m:6c34
    m:706b m:722a m:7236 m:723b m:723f m:7247 m:7259 m:725b m:72ac m:7384 m:7389 m:74dc m:74e6
    m:7518 m:751f m:7528 m:7530 m:758b m:7592 m:7676 m:767d m:76ae m:76bf m:76ee m:77db m:77e2
    m:77f3 m:793a m:79b8 m:79be m:7a74 m:7acb m:7af9 m:7c73 m:7cf8 m:7f36 m:7f51 m:7f8a m:7fbd
    m:8001 m:800c m:8012 m:8033 m:807f m:8089 m:81e3 m:81ea m:81f3 m:81fc m:820c m:821b m:821f
    m:826e m:8272 m:8278 m:864d m:866b m:8840 m:884c m:8863 m:897e m:898b m:89d2 m:8a00 m:8c37
    m:8c46 m:8c55 m:8c78 m:8c9d m:8d64 m:8d70 m:8db3 m:8eab m:8eca m:8f9b m:8fb0 m:8fb5 m:9091
    m:9149 m:91c6 m:91cc m:91d1 m:9577 m:9580 m:961c m:96b6 m:96b9 m:96e8 m:9751 m:975e m:9762
    m:9769 m:97cb m:97ed m:97f3 m:9801 m:98a8 m:98db m:98df m:9996 m:9999 m:99ac m:9aa8 m:9ad8
    m:9adf m:9b25 m:9b2f m:9b32 m:9b3c m:9b5a m:9ce5 m:9e75 m:9e7f m:9ea5 m:9ebb m:9ec3 m:9ecd
    m:9ed1 m:9ef9 m:9efd m:9f0e m:9f13 m:9f20 m:9f3b m:9f4a m:9f52 m:9f8d m:9f9c m:9fa0 2am:20 v
    m:2e v32 m:3012 v m:5341 s1:5344 v4 1v55 2v1 m:20.3099 m:20.309a v1 m:3088.308a v5e m:30b3.30c8
    5v2a 1s1:1100 m:11aa m:1102 s1:11ac s2:1103 s5:11b0 m:111a s2:1106 m:1121 s9:1109 s14:1161 i
    s1:1114 s1:11c7 m:11cc m:11ce m:11d3 m:11d7 m:11d9 m:111c m:11dd m:11df s1:111d m:1120 s1:1122
    m:1127 m:1129 s4:112b m:1132 m:1136 m:1140 m:1147 m:114c s1:11f1 s2:1157 s1:1184 m:1188 s1:1191
    m:1194 m:119e m:11a1 1v1 m:4e00 m:4e8c m:4e09 m:56db m:4e0a m:4e2d m:4e0b m:7532 m:4e59 m:4e19
    m:4e01 m:5929 m:5730 m:4eba v45 avf m:28.1100.29 m:28.1102.29 m:28.1103.29 m:28.1105.29
    m:28.1106.29 m:28.1107.29 m:28.1109.29 m:28.110b.29 m:28.110c.29 m:28.110e.29 m:28.110f.29
    m:28.1110.29 m:28.1111.29 m:28.1112.29 m:28.ac00.29 m:28.b098.29 m:28.b2e4.29 m:28.b77c.29
    m:28.b9c8.29 m:28.bc14.29 m:28.c0ac.29 m:28.c544.29 m:28.c790.29 m:28.cc28.29 m:28.ce74.29
    m:28.d0c0.29 m:28.d30c.29 m:28.d558.29 m:28.c8fc.29 m:28.c624.c804.29 m:28.c624.d6c4.29
    1m:28.4e00.29 m:28.4e8c.29 m:28.4e09.29 m:28.56db.29 m:28.4e94.29 m:28.516d.29 m:28.4e03.29
    m:28.516b.29 m:28.4e5d.29 m:28.5341.29 m:28.6708.29 m:28.706b.29 m:28.6c34.29 m:28.6728.29
    m:28.91d1.29 m:28.571f.29 m:28.65e5.29 m:28.682a.29 m:28.6709.29 m:28.793e.29 m:28.540d.29
    m:28.7279.29 m:28.8ca1.29 m:28.795d.29 m:28.52b4.29 m:28.4ee3.29 m:28.547c.29 m:28.5b66.29
    m:28.76e3.29 m:28.4f01.29 m:28.8cc7.29 m:28.5354.29 m:28.796d.29 m:28.4f11.29 m:28.81ea.29
    m:28.81f3.29 m:554f m:5e7c m:6587 m:7b8f v7 m:70.74.65 m:32.31 m:32.32 m:32.33 m:32.34 m:32.35
    m:32.36 m:32.37 m:32.38 m:32.39 m:33.30 m:33.31 m:33.32 m:33.33 m:33.34 m:33.35 m:1100 s1:1102
    s2:1105 m:1109 s1:110b s4:110e m:ac00 m:b098 m:b2e4 m:b77c m:b9c8 m:bc14 m:c0ac m:c544 m:c790
    m:cc28 m:ce74 m:d0c0 m:d30c m:d558 m:cc38.ace0 m:c8fc.c758 m:c6b0 v m:4e00 m:4e8c m:4e09 m:56db
    m:4e94 m:516d m:4e03 m:516b m:4e5d m:5341 m:6708 m:706b m:6c34 m:6728 m:91d1 m:571f m:65e5
    m:682a m:6709 m:793e m:540d m:7279 m:8ca1 m:795d m:52b4 m:79d8 m:7537 m:5973 m:9069 m:512a
    m:5370 m:6ce8 m:9805 m:4f11 m:5199 m:6b63 m:4e0a m:4e2d m:4e0b m:5de6 m:53f3 m:533b m:5b97
    m:5b66 m:76e3 m:4f01 m:8cc7 m:5354 m:591c m:33.36 m:33.37 m:33.38 m:33.39 m:34.30 m:34.31
    m:34.32 m:34.33 m:34.34 m:34.35 m:34.36 m:34.37 m:34.38 m:34.39 m:35.30 m:31.6708 m:32.6708
    m:33.6708 m:34.6708 m:35.6708 m:36.6708 m:37.6708 m:38.6708 m:39.6708 m:31.30.6708 m:31.31.6708
    m:31.32.6708 m:68.67 m:65.72.67 m:65.76 m:6c.74.64 m:30a2 m:30a4 m:30a6 m:30a8 s1:30aa m:30ad
    m:30af m:30b1 m:30b3 m:30b5 m:30b7 m:30b9 m:30bb m:30bd m:30bf m:30c1 m:30c4 m:30c6 m:30c8
    s5:30ca m:30d2 m:30d5 m:30d8 m:30db s4:30de m:30e4 m:30e6 s5:30e8 s3:30ef m:4ee4.548c
    m:30a2.30d1.30fc.30c8 m:30a2.30eb.30d5.30a1 m:30a2.30f3.30da.30a2 m:30a2.30fc.30eb
    m:30a4.30cb.30f3.30b0 m:30a4.30f3.30c1 m:30a6.30a9.30f3 m:30a8.30b9.30af.30fc.30c9
    m:30a8.30fc.30ab.30fc m:30aa.30f3.30b9 m:30aa.30fc.30e0 m:30ab.30a4.30ea m:30ab.30e9.30c3.30c8
    m:30ab.30ed.30ea.30fc m:30ac.30ed.30f3 m:30ac.30f3.30de m:30ae.30ac m:30ae.30cb.30fc
    m:30ad.30e5.30ea.30fc m:30ae.30eb.30c0.30fc m:30ad.30ed m:30ad.30ed.30b0.30e9.30e0
    m:30ad.30ed.30e1.30fc.30c8.30eb m:30ad.30ed.30ef.30c3.30c8 m:30b0.30e9.30e0
    m:30b0.30e9.30e0.30c8.30f3 m:30af.30eb.30bc.30a4.30ed m:30af.30ed.30fc.30cd m:30b1.30fc.30b9
    m:30b3.30eb.30ca m:30b3.30fc.30dd m:30b5.30a4.30af.30eb m:30b5.30f3.30c1.30fc.30e0
    m:30b7.30ea.30f3.30b0 m:30bb.30f3.30c1 m:30bb.30f3.30c8 m:30c0.30fc.30b9 m:30c7.30b7 m:30c9.30eb
    m:30c8.30f3 m:30ca.30ce m:30ce.30c3.30c8 m:30cf.30a4.30c4 m:30d1.30fc.30bb.30f3.30c8
    m:30d1.30fc.30c4 m:30d0.30fc.30ec.30eb m:30d4.30a2.30b9.30c8.30eb m:30d4.30af.30eb m:30d4.30b3
    m:30d3.30eb m:30d5.30a1.30e9.30c3.30c9 m:30d5.30a3.30fc.30c8 m:30d6.30c3.30b7.30a7.30eb
    m:30d5.30e9.30f3 m:30d8.30af.30bf.30fc.30eb m:30da.30bd m:30da.30cb.30d2 m:30d8.30eb.30c4
    m:30da.30f3.30b9 m:30da.30fc.30b8 m:30d9.30fc.30bf m:30dd.30a4.30f3.30c8 m:30dc.30eb.30c8
    m:30db.30f3 m:30dd.30f3.30c9 m:30db.30fc.30eb m:30db.30fc.30f3 m:30de.30a4.30af.30ed
    m:30de.30a4.30eb m:30de.30c3.30cf m:30de.30eb.30af m:30de.30f3.30b7.30e7.30f3
    m:30df.30af.30ed.30f3 m:30df.30ea m:30df.30ea.30d0.30fc.30eb m:30e1.30ac m:30e1.30ac.30c8.30f3
    m:30e1.30fc.30c8.30eb m:30e4.30fc.30c9 m:30e4.30fc.30eb m:30e6.30a2.30f3 m:30ea.30c3.30c8.30eb
    m:30ea.30e9 m:30eb.30d4.30fc m:30eb.30fc.30d6.30eb m:30ec.30e0 m:30ec.30f3.30c8.30b2.30f3
    m:30ef.30c3.30c8 m:30.70b9 m:31.70b9 m:32.70b9 m:33.70b9 m:34.70b9 m:35.70b9 m:36.70b9 m:37.70b9
    m:38.70b9 m:39.70b9 m:31.30.70b9 m:31.31.70b9 m:31.32.70b9 m:31.33.70b9 m:31.34.70b9
    m:31.35.70b9 m:31.36.70b9 m:31.37.70b9 m:31.38.70b9 m:31.39.70b9 m:32.30.70b9 m:32.31.70b9
    m:32.32.70b9 m:32.33.70b9 m:32.34.70b9 m:68.70.61 m:64.61 m:61.75 m:62.61.72 m:6f.76 m:70.63
    m:64.6d m:64.6d.32 m:64.6d.33 m:69.75 m:5e73.6210 m:662d.548c m:5927.6b63 m:660e.6cbb
    m:682a.5f0f.4f1a.793e m:70.61 m:6e.61 m:3bc.61 m:6d.61 m:6b.61 m:6b.62 m:6d.62 m:67.62
    m:63.61.6c m:6b.63.61.6c m:70.66 m:6e.66 m:3bc.66 m:3bc.67 m:6d.67 m:6b.67 m:68.7a m:6b.68.7a
    m:6d.68.7a m:67.68.7a m:74.68.7a m:3bc.6c m:6d.6c m:64.6c m:6b.6c m:66.6d m:6e.6d m:3bc.6d
    m:6d.6d m:63.6d m:6b.6d m:6d.6d.32 m:63.6d.32 m:6d.32 m:6b.6d.32 m:6d.6d.33 m:63.6d.33 m:6d.33
    m:6b.6d.33 m:6d.2215.73 m:6d.2215.73.32 m:70.61 m:6b.70.61 m:6d.70.61 m:67.70.61 m:72.61.64
    m:72.61.64.2215.73 m:72.61.64.2215.73.32 m:70.73 m:6e.73 m:3bc.73 m:6d.73 m:70.76 m:6e.76
    m:3bc.76 m:6d.76 m:6b.76 m:6d.76 m:70.77 m:6e.77 m:3bc.77 m:6d.77 m:6b.77 m:6d.77 m:6b.3c9
    m:6d.3c9 1m:62.71 m:63.63 m:63.64 m:63.2215.6b.67 1m:64.62 m:67.79 m:68.61 m:68.70 m:69.6e
    m:6b.6b m:6b.6d m:6b.74 m:6c.6d m:6c.6e m:6c.6f.67 m:6c.78 m:6d.62 m:6d.69.6c m:6d.6f.6c m:70.68
    1m:70.70.6d m:70.72 m:73.72 m:73.76 m:77.62 m:76.2215.6d m:61.2215.6d m:31.65e5 m:32.65e5
    m:33.65e5 m:34.65e5 m:35.65e5 m:36.65e5 m:37.65e5 m:38.65e5 m:39.65e5 m:31.30.65e5 m:31.31.65e5
    m:31.32.65e5 m:31.33.65e5 m:31.34.65e5 m:31.35.65e5 m:31.36.65e5 m:31.37.65e5 m:31.38.65e5
    m:31.39.65e5 m:32.30.65e5 m:32.31.65e5 m:32.32.65e5 m:32.33.65e5 m:32.34.65e5 m:32.35.65e5
    m:32.36.65e5 m:32.37.65e5 m:32.38.65e5 m:32.39.65e5 m:33.30.65e5 m:33.31.65e5 m:67.61.6c v708c
    3v36 9v15b 14p2d v11 p1b m:44a m:44c v59 8v21 pd v1 p3d m:a76f v7 p3 m:1d79 p9 v2 m:a78c v m:265
    v1 p3 v1 p13 m:266 m:25c m:261 m:26c m:26a v m:29e m:287 m:29d m:ab53 pf m:a794 m:282 m:1d8e p3
    m:264 pf m:19b 14m:73 m:63 m:66 m:71 m:a7f6 v1 m:127 m:153 v32 3v9 6v37 8v45 8vb 6v73 bv1d 3v4d
    1va 4v20 1v36 9vd 2v9 2v66 18v1b av5 2v5 2v5 9v6 1v6 1v2b m:a727 m:ab37 m:26b m:ab52 v8 m:28d v1
    4s4f:13a0 v2d 2v9 6v2ba3 cv16 4v30 2104m:8c48 m:66f4 m:8eca m:8cc8 m:6ed1 m:4e32 m:53e5 m1:9f9c
    m:5951 m:91d1 m:5587 m:5948 m:61f6 m:7669 m:7f85 m:863f m:87ba m:88f8 m:908f m:6a02 m:6d1b
    m:70d9 m:73de m:843d m:916a m:99f1 m:4e82 m:5375 m:6b04 m:721b m:862d m:9e1e m:5d50 m:6feb
    m:85cd m:8964 m:62c9 m:81d8 m:881f m:5eca m:6717 m:6d6a m:72fc m:90ce m:4f86 m:51b7 m:52de
    m:64c4 m:6ad3 m:7210 m:76e7 m:8001 m:8606 m:865c m:8def m:9732 m:9b6f m:9dfa m:788c m:797f
    m:7da0 m:83c9 m:9304 m:9e7f m:8ad6 m:58df m:5f04 m:7c60 m:807e m:7262 m:78ca m:8cc2 m:96f7
    m:58d8 m:5c62 m:6a13 m:6dda m:6f0f m:7d2f m:7e37 m:964b m:52d2 m:808b m:51dc m:51cc m:7a1c
    m:7dbe m:83f1 m:9675 m:8b80 m:62cf m:6a02 m:8afe m:4e39 m:5be7 m:6012 m:7387 m:7570 m:5317
    m:78fb m:4fbf m:5fa9 m:4e0d m:6ccc m:6578 m:7d22 m:53c3 m:585e m:7701 m:8449 m:8aaa m:6bba
    m:8fb0 m:6c88 m:62fe m:82e5 m:63a0 m:7565 m:4eae m:5169 m:51c9 m:6881 m:7ce7 m:826f m:8ad2
    m:91cf m:52f5 m:5442 m:5973 m:5eec m:65c5 m:6ffe m:792a m:95ad m:9a6a m:9e97 m:9ece m:529b
    m:66c6 m:6b77 m:8f62 m:5e74 m:6190 m:6200 m:649a m:6f23 m:7149 m:7489 m:79ca m:7df4 m:806f
    m:8f26 m:84ee m:9023 m:934a m:5217 m:52a3 m:54bd m:70c8 m:88c2 m:8aaa m:5ec9 m:5ff5 m:637b
    m:6bae m:7c3e m:7375 m:4ee4 m:56f9 m:5be7 m:5dba m:601c m:73b2 m:7469 m:7f9a m:8046 m:9234
    m:96f6 m:9748 m:9818 m:4f8b m:79ae m:91b4 m:96b8 m:60e1 m:4e86 m:50da m:5bee m:5c3f m:6599
    m:6a02 m:71ce m:7642 m:84fc m:907c m:9f8d m:6688 m:962e m:5289 m:677b m:67f3 m:6d41 m:6e9c
    m:7409 m:7559 m:786b m:7d10 m:985e m:516d m:622e m:9678 m:502b m:5d19 m:6dea m:8f2a m:5f8b
    m:6144 m:6817 m:7387 m:9686 m:5229 m:540f m:5c65 m:6613 m:674e m:68a8 m:6ce5 m:7406 m:75e2
    m:7f79 m:88cf m:88e1 m:91cc m:96e2 m:533f m:6eba m:541d m:71d0 m:7498 m:85fa m:96a3 m:9c57
    m:9e9f m:6797 m:6dcb m:81e8 m:7acb m:7b20 m:7c92 m:72c0 m:7099 m:8b58 m:4ec0 m:8336 m:523a
    m:5207 m:5ea6 m:62d3 m:7cd6 m:5b85 m:6d1e m:66b4 m:8f3b m:884c m:964d m:898b m:5ed3 m:5140
    m:55c0 v1 m:585a v m:6674 v1 m:51de m:732a m:76ca m:793c m:795e m:7965 m:798f m:9756 m:7cbe
    m:7fbd v m:8612 v m:8af8 v1 m:9038 m:90fd v2 m:98ef m:98fc m:9928 m:9db4 m:90de m:96b7 m:4fae
    m:50e7 m:514d m:52c9 m:52e4 m:5351 m:559d m:5606 m:5668 m:5840 m:58a8 m:5c64 m:5c6e m:6094
    m:6168 m:618e m:61f2 m:654f m:65e2 m:6691 m:6885 m:6d77 m:6e1a m:6f22 m:716e m:722b m:7422
    m:7891 m:793e m:7949 m:7948 m:7950 m:7956 m:795d s1:798d m:7a40 m:7a81 m:7bc0 m:7df4 m:7e09
    m:7e41 m:7f72 m:8005 m:81ed m1:8279 m:8457 m:8910 m:8996 m:8b01 m:8b39 m:8cd3 m:8d08 m:8fb6
    m:9038 m:96e3 m:97ff m:983b m:6075 m:242ee m:8218 2m:4e26 m:51b5 m:5168 m:4f80 m:5145 m:5180
    m:52c7 m:52fa m:559d m:5555 m:5599 m:55e2 m:585a m:58b3 m:5944 m:5954 m:5a62 m:5b28 m:5ed2
    m:5ed9 m:5f69 m:5fad m:60d8 m:614e m:6108 m:618e m:6160 m:61f2 m:6234 m:63c4 m:641c m:6452
    m:6556 m:6674 m:6717 m:671b m:6756 m:6b79 m:6bba m:6d41 m:6edb m:6ecb m:6f22 m:701e m:716e
    m:77a7 m:7235 m:72af m:732a m:7471 m:7506 m:753b m:761d m:761f m:76ca m:76db m:76f4 m:774a
    m:7740 m:78cc m:7ab1 m:7bc0 m:7c7b m:7d5b m:7df4 m:7f3e m:8005 m:8352 m:83ef m:8779 m:8941
    m:8986 m:8996 m:8abf m:8af8 m:8acb m:8b01 m:8afe m:8aed m:8b39 m:8b8a m:8d08 m:8f38 m:9072
    m:9199 m:9276 m:967c m:96e3 m:9756 m:97db m:97ff m:980b m:983b m:9b12 m:9f9c m:2284a m:22844
    m:233d5 m:3b9d m:4018 m:4039 m:25249 m:25cd0 m:27ed3 m:9f43 m:9f8e 26m:66.66 m:66.69 m:66.6c
    m:66.66.69 m:66.66.6c m1:73.74 cm:574.576 m:574.565 m:574.56b m:57e.576 m:574.56d 5m:5d9.5b4 v
    m:5f2.5b7 m:5e2 m:5d0 s1:5d3 s2:5db m:5e8 m:5ea m:2b m:5e9.5c1 m:5e9.5c2 m:5e9.5bc.5c1
    m:5e9.5bc.5c2 m:5d0.5b7 m:5d0.5b8 m:5d0.5bc m:5d1.5bc m:5d2.5bc m:5d3.5bc m:5d4.5bc m:5d5.5bc
    m:5d6.5bc 1m:5d8.5bc m:5d9.5bc m:5da.5bc m:5db.5bc m:5dc.5bc 1m:5de.5bc 1m:5e0.5bc m:5e1.5bc
    1m:5e3.5bc m:5e4.5bc 1m:5e6.5bc m:5e7.5bc m:5e8.5bc m:5e9.5bc m:5ea.5bc m:5d5.5b9 m:5d1.5bf
    m:5db.5bf m:5e4.5bf m:5d0.5dc m1:671 m3:67b m3:67e m3:680 m3:67a m3:67f m3:679 m3:6a4 m3:6a6
    m3:684 m3:683 m3:686 m3:687 m1:68d m1:68c m1:68e m1:688 m1:698 m1:691 m3:6a9 m3:6af m3:6b3
    m3:6b1 m1:6ba m3:6bb m1:6c0 m3:6c1 m3:6be m1:6d2 m1:6d3 v20 m3:6ad m1:6c7 m1:6c6 m1:6c8
    m:6c7.674 m1:6cb m1:6c5 m1:6c9 m3:6d0 m1:649 m1:626.627 m1:626.6d5 m1:626.648 m1:626.6c7
    m1:626.6c6 m1:626.6c8 m2:626.6d0 m2:626.649 m3:6cc m:626.62c m:626.62d m:626.645 m:626.649
    m:626.64a m:628.62c m:628.62d m:628.62e m:628.645 m:628.649 m:628.64a m:62a.62c m:62a.62d
    m:62a.62e m:62a.645 m:62a.649 m:62a.64a m:62b.62c m:62b.645 m:62b.649 m:62b.64a m:62c.62d
    m:62c.645 m:62d.62c m:62d.645 m:62e.62c m:62e.62d m:62e.645 m:633.62c m:633.62d m:633.62e
    m:633.645 m:635.62d m:635.645 m:636.62c m:636.62d m:636.62e m:636.645 m:637.62d m:637.645
    m:638.645 m:639.62c m:639.645 m:63a.62c m:63a.645 m:641.62c m:641.62d m:641.62e m:641.645
    m:641.649 m:641.64a m:642.62d m:642.645 m:642.649 m:642.64a m:643.627 m:643.62c m:643.62d
    m:643.62e m:643.644 m:643.645 m:643.649 m:643.64a m:644.62c m:644.62d m:644.62e m:644.645
    m:644.649 m:644.64a m:645.62c m:645.62d m:645.62e m:645.645 m:645.649 m:645.64a m:646.62c
    m:646.62d m:646.62e m:646.645 m:646.649 m:646.64a m:647.62c m:647.645 m:647.649 m:647.64a
    m:64a.62c m:64a.62d m:64a.62e m:64a.645 m:64a.649 m:64a.64a m:630.670 m:631.670 m:649.670
    m:20.64c.651 m:20.64d.651 m:20.64e.651 m:20.64f.651 m:20.650.651 m:20.651.670 m:626.631
    m:626.632 m:626.645 m:626.646 m:626.649 m:626.64a m:628.631 m:628.632 m:628.645 m:628.646
    m:628.649 m:628.64a m:62a.631 m:62a.632 m:62a.645 m:62a.646 m:62a.649 m:62a.64a m:62b.631
    m:62b.632 m:62b.645 m:62b.646 m:62b.649 m:62b.64a m:641.649 m:641.64a m:642.649 m:642.64a
    m:643.627 m:643.644 m:643.645 m:643.649 m:643.64a m:644.645 m:644.649 m:644.64a m:645.627
    m:645.645 m:646.631 m:646.632 m:646.645 m:646.646 m:646.649 m:646.64a m:649.670 m:64a.631
    m:64a.632 m:64a.645 m:64a.646 m:64a.649 m:64a.64a m:626.62c m:626.62d m:626.62e m:626.645
    m:626.647 m:628.62c m:628.62d m:628.62e m:628.645 m:628.647 m:62a.62c m:62a.62d m:62a.62e
    m:62a.645 m:62a.647 m:62b.645 m:62c.62d m:62c.645 m:62d.62c m:62d.645 m:62e.62c m:62e.645
    m:633.62c m:633.62d m:633.62e m:633.645 m:635.62d m:635.62e m:635.645 m:636.62c m:636.62d
    m:636.62e m:636.645 m:637.62d m:638.645 m:639.62c m:639.645 m:63a.62c m:63a.645 m:641.62c
    m:641.62d m:641.62e m:641.645 m:642.62d m:642.645 m:643.62c m:643.62d m:643.62e m:643.644
    m:643.645 m:644.62c m:644.62d m:644.62e m:644.645 m:644.647 m:645.62c m:645.62d m:645.62e
    m:645.645 m:646.62c m:646.62d m:646.62e m:646.645 m:646.647 m:647.62c m:647.645 m:647.670
    m:64a.62c m:64a.62d m:64a.62e m:64a.645 m:64a.647 m:626.645 m:626.647 m:628.645 m:628.647
    m:62a.645 m:62a.647 m:62b.645 m:62b.647 m:633.645 m:633.647 m:634.645 m:634.647 m:643.644
    m:643.645 m:644.645 m:646.645 m:646.647 m:64a.645 m:64a.647 m:640.64e.651 m:640.64f.651
    m:640.650.651 m:637.649 m:637.64a m:639.649 m:639.64a m:63a.649 m:63a.64a m:633.649 m:633.64a
    m:634.649 m:634.64a m:62d.649 m:62d.64a m:62c.649 m:62c.64a m:62e.649 m:62e.64a m:635.649
    m:635.64a m:636.649 m:636.64a m:634.62c m:634.62d m:634.62e m:634.645 m:634.631 m:633.631
    m:635.631 m:636.631 m:637.649 m:637.64a m:639.649 m:639.64a m:63a.649 m:63a.64a m:633.649
    m:633.64a m:634.649 m:634.64a m:62d.649 m:62d.64a m:62c.649 m:62c.64a m:62e.649 m:62e.64a
    m:635.649 m:635.64a m:636.649 m:636.64a m:634.62c m:634.62d m:634.62e m:634.645 m:634.631
    m:633.631 m:635.631 m:636.631 m:634.62c m:634.62d m:634.62e m:634.645 m:633.647 m:634.647
    m:637.645 m:633.62c m:633.62d m:633.62e m:634.62c m:634.62d m:634.62e m:637.645 m:638.645
    m1:627.64b v11 m:62a.62c.645 m1:62a.62d.62c m:62a.62d.645 m:62a.62e.645 m:62a.645.62c
    m:62a.645.62d m:62a.645.62e m1:62c.645.62d m:62d.645.64a m:62d.645.649 m:633.62d.62c
    m:633.62c.62d m:633.62c.649 m1:633.645.62d m:633.645.62c m1:633.645.645 m1:635.62d.62d
    m:635.645.645 m1:634.62d.645 m:634.62c.64a m1:634.645.62e m1:634.645.645 m:636.62d.649
    m1:636.62e.645 m1:637.645.62d m:637.645.645 m:637.645.64a m:639.62c.645 m1:639.645.645
    m:639.645.649 m:63a.645.645 m:63a.645.64a m:63a.645.649 m1:641.62e.645 m:642.645.62d
    m:642.645.645 m:644.62d.645 m:644.62d.64a m:644.62d.649 m1:644.62c.62c m1:644.62e.645
    m1:644.645.62d m:645.62d.62c m:645.62d.645 m:645.62d.64a m:645.62c.62d m:645.62c.645
    m:645.62e.62c m:645.62e.645 v1 m:645.62c.62e m:647.645.62c m:647.645.645 m:646.62d.645
    m:646.62d.649 m1:646.62c.645 m:646.62c.649 m:646.645.64a m:646.645.649 m1:64a.645.645
    m:628.62e.64a m:62a.62c.64a m:62a.62c.649 m:62a.62e.64a m:62a.62e.649 m:62a.645.64a
    m:62a.645.649 m:62c.645.64a m:62c.62d.649 m:62c.645.649 m:633.62e.649 m:635.62d.64a
    m:634.62d.64a m:636.62d.64a m:644.62c.64a m:644.645.64a m:64a.62d.64a m:64a.62c.64a
    m:64a.645.64a m:645.645.64a m:642.645.64a m:646.62d.64a m:642.645.62d m:644.62d.645
    m:639.645.64a m:643.645.64a m:646.62c.62d m:645.62e.64a m:644.62c.645 m:643.645.645
    m:644.62c.645 m:646.62c.62d m:62c.62d.64a m:62d.62c.64a m:645.62c.64a m:641.645.64a
    m:628.62d.64a m:643.645.645 m:639.62c.645 m:635.645.645 m:633.62e.64a m:646.62c.64a v7
    20m:635.644.6d2 m:642.644.6d2 m:627.644.644.647 m:627.643.628.631 m:645.62d.645.62f
    m:635.644.639.645 m:631.633.648.644 m:639.644.64a.647 m:648.633.644.645 m:635.644.649
    m:635.644.649.20.627.644.644.647.20.639.644.64a.647.20.648.633.644.645
    m:62c.644.20.62c.644.627.644.647 m:631.6cc.627.644 v2 if m:2c m:3001 1s1:3a m:21 m:3f s1:3016
    7vf 1m:2014 m:2013 m1:5f s1:28 m:7b m:7d s1:3014 s1:3010 s1:300a s1:3008 s3:300c v1 m:5b m:5d
    m3:20.305 m2:5f m:2c m:3001 2m:3b m:3a m:3f m:21 m:2014 s1:28 m:7b m:7d s1:3014 m:23 m:26 s1:2a
    m:2d m:3c m:3e m:3d 1m:5c s1:24 m:40 4m:20.64b m:640.64b m:20.64c v m:20.64d 1m:20.64e m:640.64e
    m:20.64f m:640.64f m:20.650 m:640.650 m:20.651 m:640.651 m:20.652 m:640.652 s1:621 s1:622 s1:623
    s1:624 s1:625 m2:626 m1:627 m3:628 m1:629 m3:62a m3:62b m3:62c m3:62d m3:62e m1:62f m1:630
    m1:631 m1:632 m3:633 m3:634 m3:635 m3:636 m3:637 m3:638 m3:639 m3:63a m3:641 m3:642 m3:643
    m3:644 m3:645 m3:646 m3:647 m1:648 m1:649 m3:64a m1:644.622 m1:644.623 m1:644.625 m1:644.627 2i
    1s1f:21 s19:61 s23:5b s1:2985 m:2e s1:300c m:3001 m:30fb m:30f2 m:30a1 m:30a3 m:30a5 m:30a7
    m:30a9 m:30e3 m:30e5 m:30e7 m:30c3 m:30fc m:30a2 m:30a4 m:30a6 m:30a8 s1:30aa m:30ad m:30af
    m:30b1 m:30b3 m:30b5 m:30b7 m:30b9 m:30bb m:30bd m:30bf m:30c1 m:30c4 m:30c6 m:30c8 s5:30ca
    m:30d2 m:30d5 m:30d8 m:30db s4:30de m:30e4 m:30e6 s5:30e8 m:30ef m:30f3 s1:3099 i s1:1100 m:11aa
    m:1102 s1:11ac s2:1103 s5:11b0 m:111a s2:1106 m:1121 s9:1109 3s5:1161 2s5:1167 2s5:116d 2s2:1173
    3s1:a2 m:ac m:20.304 m:a6 m:a5 m:20a9 1m:2502 s3:2190 m:25a0 m:25cb 11vb 1v19 1v12 1v1 1ve 2vd
    22v7a 5v2 4v2c 3v57 1vc 3v 2fv2d 82v1c 3v30 fv1b 4v23 9v1d 5v2a 5v1d 1v24 4vd 2as27:10428 v75
    2v9 6s23:104d8 4v23 4v27 8v33 bv sa:10597 1se:105a3 1s6:105b3 1s1:105bb 1va 1ve 1v6 1v1 3v33
    cv136 9v15 av7 18v s1:2d0 m:e6 m:299 m:253 1m:2a3 m:ab66 m:2a5 m:2a4 s1:256 m:1d91 m:258 m:25e
    m:2a9 m:264 m:262 m:260 m:29b m:127 m:29c m:267 m:284 s1:2aa m:26c m:1df04 m:a78e m:26e m:1df05
    m:28e m:1df06 m:f8 s1:276 m:71 m:27a m:1df08 s1:27d m:280 m:2a8 m:2a6 m:ab67 m:2a7 m:288 m:2c71
    1m:28f s1:2a1 m:298 s2:1c0 m:1df0a m:1df1e 45v5 2v 1v2b 1v1 3v 2v16 1v47 8v8 30v12 1v1 5v20 3v1a
    5v1a 26v37 4v13 2v31 1v1 5v7 1v2 1v1c 2v2 4v9 7v8 7v3f 20v26 4vb 9v35 3v1c 2v1a 5v19 7v3 cv6
    50v48 37s32:10cc0 dv32 7v2d 8v9 6vf s15:10d70 3v1c 8v1 d0v1e 1v29 1v2 2v1 10v5 8v8 21v2d 8v29
    16v19 26v1b 14v16 9v4d 4v23 9v3d 1v4 dv18 7v9 6v34 1v11 8v26 9v5f 1v13 bv11 1v2e 3ev6 1v 1v3 1ve
    1va 6v3a 5v9 6v3 1v7 2v1 2v15 1v6 1v1 1v4 1v9 2v1 2v2 2v 6v 5v6 2v6 3v4 bv9 1v 2v 1v25 1v9 1v 2v
    1v3 1v9 1v1 8v1 1dv5b 1v4 1ev47 8v9 a6v35 2v25 22v44 bv9 6vc 13v39 6v9 6v13 1cv1a 2ve 4v16 b9v3b
    64s1f:118c0 v32 cv7 2v 2v7 1v1 1v1d 1v1 2vb 9v9 46v7 2v2d 2va 1bv47 8v52 dv48 7v9 56v7 58v21 ev9
    6v8 1v2c 1vd av1c 3v1f 2v15 1vd 49v6 1v1 1v2b 3v 1v1 1v8 8v9 6v5 1v1 1v24 1v1 1v5 7v9 6v2b 4v9
    f6v18 7v10 1v28 3v1c 55v fv31 dv39a 66v6e 1v4 bvc3 a4cv62 dv42f 10v15 avf9a 5v246 1ab9v39
    6c6v238 7v1e 1v9 4v50 1v9 6v1d 2v5 av45 av9 1v6 1v14 5v12 1b0v39 c6s1f:16e60 v3a 5s18:16ebb 2v18
    2cv4a 4v38 7v10 40v4 bv6 9v1cd5 29v1f 61v72 21fdv3 1v6 1v1 1v122 fv 1dv2 2v ev3 8v18b 904v6a 5vc
    3v8 7v9 2v3 i3 f5cvd5 s19:61 s9:30 v2 3v1b3 6v16 fv10 fv2d 2v16 9v73 3cvf5 av26 2v34
    m:1d157.1d165 m:1d158.1d165 m:1d158.1d165.1d16e m:1d158.1d165.1d16f m:1d158.1d165.1d170
    m:1d158.1d165.1d171 m:1d158.1d165.1d172 vd i7 v3f m:1d1b9.1d165 m:1d1ba.1d165
    m:1d1b9.1d165.1d16e m:1d1ba.1d165.1d16e m:1d1b9.1d165.1d16f m:1d1ba.1d165.1d16f v29 15v45 7av13
    cv13 cv56 9v18 87s19:61 s19:61 s19:61 s6:61 1s11:69 s19:61 s19:61 m:61 1s1:63 2m:67 2s1:6a
    2s3:6e 1s7:73 s3:61 1m:66 1s6:68 1sa:70 s19:61 s19:61 s1:61 1s3:64 2s7:6a 1s6:73 1s19:61 s1:61
    1s3:64 1s4:69 1m:6f 3s6:73 1s19:61 s19:61 s19:61 s19:61 s19:61 s19:61 s19:61 s19:61 s19:61
    s19:61 s19:61 s19:61 s19:61 m:131 m:237 2s10:3b1 m:3b8 s6:3c3 m:2207 s10:3b1 m1:3c3 s5:3c4
    m:2202 m:3b5 m:3b8 m:3ba m:3c6 m:3c1 m:3c0 s10:3b1 m:3b8 s6:3c3 m:2207 s10:3b1 m1:3c3 s5:3c4
    m:2202 m:3b5 m:3b8 m:3ba m:3c6 m:3c1 m:3c0 s10:3b1 m:3b8 s6:3c3 m:2207 s10:3b1 m1:3c3 s5:3c4
    m:2202 m:3b5 m:3b8 m:3ba m:3c6 m:3c1 m:3c0 s10:3b1 m:3b8 s6:3c3 m:2207 s10:3b1 m1:3c3 s5:3c4
    m:2202 m:3b5 m:3b8 m:3ba m:3c6 m:3c1 m:3c0 s10:3b1 m:3b8 s6:3c3 m:2207 s10:3b1 m1:3c3 s5:3c4
    m:2202 m:3b5 m:3b8 m:3ba m:3c6 m:3c1 m:3c0 m1:3dd 2s9:30 s9:30 s9:30 s9:30 s9:30 v28b fv4 1ve
    450v1e 6v5 d5v6 1v10 2v6 1v1 1v4 5s8:430 s2:43a sa:43e m:44b s1:44d m:a689 m:4d9 m:456 m:458
    m:4e9 m:4af m:4cf s8:430 s1:43a s1:43e m:441 s5:443 s1:44a m:491 m:456 m:455 m:45f m:4ab m:a651
    m:4b1 21v 70v2c 3vd 2v9 4v1 140v1e 11v39 5v 1d0v29 d6v2a 4v c0v1e 1v15 8v1 e0v6 1v3 1v1 1ve 1vc4
    2vf 29s21:1e922 v29 4v9 4v1 311v43 4cv3c c2s1:627 m:62c m:62f 1m:648 m:632 m:62d m:637 m:64a
    s3:643 m:633 m:639 m:641 m:635 m:642 m:631 m:634 s1:62a m:62e m:630 m:636 m:638 m:63a m:66e
    m:6ba m:6a1 m:66f 1m:628 m:62c 1m:647 2m:62d 1m:64a s3:643 m:633 m:639 m:641 m:635 m:642 1m:634
    s1:62a m:62e 1m:636 1m:63a 6m:62c 4m:62d 1m:64a 1m:644 1m:646 m:633 m:639 1m:635 m:642 1m:634
    2m:62e 1m:636 1m:63a 1m:6ba 1m:66f 1m:628 m:62c 1m:647 2m:62d m:637 m:64a m:643 1s1:645 m:633
    m:639 m:641 m:635 m:642 1m:634 s1:62a m:62e 1m:636 m:638 m:63a m:66e 1m:6a1 1s1:627 m:62c m:62f
    s1:647 m:632 m:62d m:637 m:64a 1s2:644 m:633 m:639 m:641 m:635 m:642 m:631 m:634 s1:62a m:62e
    m:630 m:636 m:638 m:63a 5m:628 m:62c m:62f 1m:648 m:632 m:62d m:637 m:64a 1s2:644 m:633 m:639
    m:641 m:635 m:642 m:631 m:634 s1:62a m:62e m:630 m:636 m:638 m:63a 34v1 10ev2b 4v63 cve 2ve 1ve
    1v24 bm:30.2c m:31.2c m:32.2c m:33.2c m:34.2c m:35.2c m:36.2c m:37.2c m:38.2c m:39.2c v4
    m:28.61.29 m:28.62.29 m:28.63.29 m:28.64.29 m:28.65.29 m:28.66.29 m:28.67.29 m:28.68.29
    m:28.69.29 m:28.6a.29 m:28.6b.29 m:28.6c.29 m:28.6d.29 m:28.6e.29 m:28.6f.29 m:28.70.29
    m:28.71.29 m:28.72.29 m:28.73.29 m:28.74.29 m:28.75.29 m:28.76.29 m:28.77.29 m:28.78.29
    m:28.79.29 m:28.7a.29 m:3014.73.3015 m:63 m:72 m:63.64 m:77.7a v s19:61 m:68.76 m:6d.76 m:73.64
    m:73.73 m:70.70.76 m:77.63 v19 m:6d.63 m:6d.64 m:6d.72 v22 m:64.6a v1c 38v19 m:307b.304b
    m:30b3.30b3 m:30b5 dm:624b m:5b57 m:53cc m:30c7 m:4e8c m:591a m:89e3 m:5929 m:4ea4 m:6620 m:7121
    m:6599 m:524d m:5f8c m:518d m:65b0 m:521d m:7d42 m:751f m:8ca9 m:58f0 m:5439 m:6f14 m:6295
    m:6355 m:4e00 m:4e09 m:904a m:5de6 m:4e2d m:53f3 m:6307 m:8d70 m:6253 m:7981 m:7a7a m:5408
    m:6e80 m:6709 m:6708 m:7533 m:5272 m:55b6 m:914d 4m:3014.672c.3015 m:3014.4e09.3015
    m:3014.4e8c.3015 m:3014.5b89.3015 m:3014.70b9.3015 m:3014.6253.3015 m:3014.76d7.3015
    m:3014.52dd.3015 m:3014.6557.3015 7m:5f97 m:53ef ev5 9av3d8 3v10 3vc 3vd9 6vb 4v fvb 4v37 8v9
    6v27 8v1d 2vb 4v1 ev8 27v157 8vd 2vc 3va 3v38 1v 4vf 2vb 4v9 7v92 1v5b s9:30 v 405va6df 20v111d
    2v168d 2v1d30 fv26d 9a2m:4e3d m:4e38 m:4e41 m:20122 m:4f60 m:4fae m:4fbb m:5002 m:507a m:5099
    m:50e7 m:50cf m:349e m:2063a m:514d m:5154 m:5164 m:5177 m:2051c m:34b9 m:5167 m:518d m:2054b
    m:5197 m:51a4 m:4ecc m:51ac m:51b5 m:291df m:51f5 m:5203 m:34df m:523b m:5246 m:5272 m:5277
    m:3515 m:52c7 m:52c9 m:52e4 m:52fa s1:5305 m:5317 m:5349 m:5351 m:535a m:5373 m:537d m2:537f
    m:20a2c m:7070 m:53ca m:53df m:20b63 m:53eb m:53f1 m:5406 m:549e m:5438 m:5448 m:5468 m:54a2
    m:54f6 m:5510 m:5553 m:5563 m1:5584 m:5599 m:55ab m:55b3 m:55c2 m:5716 m:5606 m:5717 m:5651
    m:5674 m:5207 m:58ee m:57ce m:57f4 m:580d m:578b m:5832 m:5831 m:58ac m:214e4 m:58f2 m:58f7
    m:5906 m:591a m:5922 m:5962 m:216a8 m:216ea m:59ec m:5a1b m:5a27 m:59d8 m:5a66 m:36ee m:36fc
    m:5b08 m1:5b3e m:219c8 m:5bc3 m:5bd8 m:5be7 m:5bf3 m:21b18 m:5bff m:5c06 m:5f53 m:5c22 m:3781
    m:5c60 m:5c6e m:5cc0 m:5c8d m:21de4 m:5d43 m:21de6 m:5d6e m:5d6b m:5d7c s1:5de1 m:382f m:5dfd
    m:5e28 m:5e3d m:5e69 m:3862 m:22183 m:387c m:5eb0 m:5eb3 m:5eb6 m:5eca m:2a392 m:5efe m1:22331
    m:8201 m1:5f22 m:38c7 m:232b8 m:261da m:5f62 m:5f6b m:38e3 m:5f9a m:5fcd m:5fd7 m:5ff9 m:6081
    m:393a m:391c m:6094 m:226d4 m:60c7 m:6148 m:614c m:614e m:614c m:617a m:618e m:61b2 m:61a4
    m:61af m:61de m:61f2 m:61f6 m:6210 m:621b m:625d m:62b1 m:62d4 m:6350 m:22b0c m:633d m:62fc
    m:6368 m:6383 m:63e4 m:22bf1 m:6422 m:63c5 m:63a9 m:3a2e m:6469 m:647e m:649d m:6477 m:3a6c
    m:654f m:656c m:2300a m:65e3 m:66f8 m:6649 m:3b19 m:6691 m:3b08 m:3ae4 m:5192 m:5195 m:6700
    m:669c m:80ad m:43d9 m:6717 m:671b m:6721 m:675e m:6753 m:233c3 m:3b49 m:67fa m:6785 m:6852
    m:6885 m:2346d m:688e m:681f m:6914 m:3b9d m:6942 m:69a3 m:69ea m:6aa8 m:236a3 m:6adb m:3c18
    m:6b21 m:238a7 m:6b54 m:3c4e m:6b72 m:6b9f s1:6bba m:23a8d m:21d0b m:23afa m:6c4e m:23cbc m:6cbf
    m:6ccd m:6c67 m:6d16 m:6d3e m:6d77 m:6d41 m:6d69 m:6d78 m:6d85 m:23d1e m:6d34 m:6e2f m:6e6e
    m:3d33 m:6ecb m:6ec7 m:23ed1 m:6df9 m:6f6e m:23f5e m:23f8e m:6fc6 m:7039 m:701e m:701b m:3d96
    m:704a m:707d m:7077 m:70ad m:20525 m:7145 m:24263 m:719c m:243ab m:7228 m:7235 m:7250 m:24608
    m:7280 m:7295 m:24735 m:24814 m:737a m:738b m:3eac m:73a5 m1:3eb8 m:7447 m:745c m:7471 m:7485
    m:74ca m:3f1b m:7524 m:24c36 m:753e m:24c92 m:7570 m:2219f m:7610 m:24fa1 m:24fb8 m:25044 m:3ffc
    m:4008 m:76f4 m:250f3 m:250f2 m:25119 m:25133 s1:771e m:771f m:774a m:4039 m:778b m:4046 m:4096
    m:2541d m:784e m:788c m:78cc m:40e3 m:25626 m:7956 m:2569a m:256c5 m:798f m:79eb m:412f m:7a40
    m:7a4a m:7a4f m:2597c m1:25aa7 m:7aee m:4202 m:25bab m:7bc6 m:7bc9 m:4227 m:25c80 m:7cd2 m:42a0
    m:7ce8 m:7ce3 m:7d00 m:25f86 m:7d63 m:4301 m:7dc7 m:7e02 m:7e45 m:4334 m:26228 m:26247 m:4359
    m:262d9 m:7f7a m:2633e m:7f95 m:7ffa m:8005 m:264da m:26523 m:8060 m:265a8 m:8070 m:2335f m:43d5
    m:80b2 m:8103 m:440b m:813e m:5ab5 m:267a7 m:267b5 m:23393 m:2339c m:8201 m:8204 m:8f9e m:446b
    m:8291 m:828b m:829d m:52b3 m:82b1 m:82b3 m:82bd m:82e6 m:26b3c m:82e5 m:831d m:8363 m:83ad
    m:8323 m:83bd m:83e7 m:8457 m:8353 m:83ca m:83cc m:83dc m:26c36 m:26d6b m:26cd5 m:452b m:84f1
    m:84f3 m:8516 m:273ca m:8564 m:26f2c m:455d m:4561 m:26fb1 m:270d2 m:456b m:8650 m:865c m:8667
    m:8669 m:86a9 m:8688 m:870e m:86e2 m:8779 m:8728 m:876b m:8786 m:45d7 m:87e1 m:8801 m:45f9
    m:8860 m:8863 m:27667 m:88d7 m:88de m:4635 m:88fa m:34bb m:278ae m:27966 m:46be m:46c7 m:8aa0
    m:8aed m:8b8a m:8c55 m:27ca8 m:8cab m:8cc1 m:8d1b m:8d77 m:27f2f m:20804 m:8dcb m:8dbc m:8df0
    m:208de m:8ed4 m:8f38 m:285d2 m:285ed m:9094 m:90f1 m:9111 m:2872e m:911b m:9238 s1:92d7 m:927c
    m:93f9 m:9415 m:28bfa m:958b m:4995 m:95b7 m:28d77 m:49e6 m:96c3 m:5db2 m:9723 m:29145 m:2921a
    m:4a6e m:4a76 m:97e0 m:2940a m:4ab2 m:29496 m1:980b m:9829 m:295b6 m:98e2 m:4b33 m:9929 m:99a7
    m:99c2 m:99fe m:4bce m:29b30 m:9b12 m:9c40 m:9cfd m:4cce m:4ced m:9d67 m:2a0ce m:4cf8 m:2a105
    m:2a20e m:2a291 m:9ebb m:4d56 m:9ef9 m:9efe m:9f05 m:9f0f m:9f16 m:9f3b m:2a600 5e2v134a 5v2129
    acc86ief"

end RelayConsole
