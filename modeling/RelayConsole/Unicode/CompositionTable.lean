import RelayConsole.Unicode.Table

namespace RelayConsole

/-- Canonical decompositions outside Hangul: `p` is the pair that composes to the character again, `x` are
characters that never do. -/
def Unicode.compositionTable : Array Unicode.Row := Unicode.readTable
  "c0p:41.300 p:41.301 p:41.302 p:41.303 p:41.308 p:41.30a 1p:43.327 p:45.300 p:45.301 p:45.302
    p:45.308 p:49.300 p:49.301 p:49.302 p:49.308 1p:4e.303 p:4f.300 p:4f.301 p:4f.302 p:4f.303
    p:4f.308 2p:55.300 p:55.301 p:55.302 p:55.308 p:59.301 2p:61.300 p:61.301 p:61.302 p:61.303
    p:61.308 p:61.30a 1p:63.327 p:65.300 p:65.301 p:65.302 p:65.308 p:69.300 p:69.301 p:69.302
    p:69.308 1p:6e.303 p:6f.300 p:6f.301 p:6f.302 p:6f.303 p:6f.308 2p:75.300 p:75.301 p:75.302
    p:75.308 p:79.301 1p:79.308 p:41.304 p:61.304 p:41.306 p:61.306 p:41.328 p:61.328 p:43.301
    p:63.301 p:43.302 p:63.302 p:43.307 p:63.307 p:43.30c p:63.30c p:44.30c p:64.30c 2p:45.304
    p:65.304 p:45.306 p:65.306 p:45.307 p:65.307 p:45.328 p:65.328 p:45.30c p:65.30c p:47.302
    p:67.302 p:47.306 p:67.306 p:47.307 p:67.307 p:47.327 p:67.327 p:48.302 p:68.302 2p:49.303
    p:69.303 p:49.304 p:69.304 p:49.306 p:69.306 p:49.328 p:69.328 p:49.307 3p:4a.302 p:6a.302
    p:4b.327 p:6b.327 1p:4c.301 p:6c.301 p:4c.327 p:6c.327 p:4c.30c p:6c.30c 4p:4e.301 p:6e.301
    p:4e.327 p:6e.327 p:4e.30c p:6e.30c 3p:4f.304 p:6f.304 p:4f.306 p:6f.306 p:4f.30b p:6f.30b
    2p:52.301 p:72.301 p:52.327 p:72.327 p:52.30c p:72.30c p:53.301 p:73.301 p:53.302 p:73.302
    p:53.327 p:73.327 p:53.30c p:73.30c p:54.327 p:74.327 p:54.30c p:74.30c 2p:55.303 p:75.303
    p:55.304 p:75.304 p:55.306 p:75.306 p:55.30a p:75.30a p:55.30b p:75.30b p:55.328 p:75.328
    p:57.302 p:77.302 p:59.302 p:79.302 p:59.308 p:5a.301 p:7a.301 p:5a.307 p:7a.307 p:5a.30c
    p:7a.30c 21p:4f.31b p:6f.31b dp:55.31b p:75.31b 1cp:41.30c p:61.30c p:49.30c p:69.30c p:4f.30c
    p:6f.30c p:55.30c p:75.30c p:dc.304 p:fc.304 p:dc.301 p:fc.301 p:dc.30c p:fc.30c p:dc.300
    p:fc.300 1p:c4.304 p:e4.304 p:226.304 p:227.304 p:c6.304 p:e6.304 2p:47.30c p:67.30c p:4b.30c
    p:6b.30c p:4f.328 p:6f.328 p:1ea.304 p:1eb.304 p:1b7.30c p:292.30c p:6a.30c 3p:47.301 p:67.301
    2p:4e.300 p:6e.300 p:c5.301 p:e5.301 p:c6.301 p:e6.301 p:d8.301 p:f8.301 p:41.30f p:61.30f
    p:41.311 p:61.311 p:45.30f p:65.30f p:45.311 p:65.311 p:49.30f p:69.30f p:49.311 p:69.311
    p:4f.30f p:6f.30f p:4f.311 p:6f.311 p:52.30f p:72.30f p:52.311 p:72.311 p:55.30f p:75.30f
    p:55.311 p:75.311 p:53.326 p:73.326 p:54.326 p:74.326 2p:48.30c p:68.30c 6p:41.307 p:61.307
    p:45.327 p:65.327 p:d6.304 p:f6.304 p:d5.304 p:f5.304 p:4f.307 p:6f.307 p:22e.304 p:22f.304
    p:59.304 p:79.304 10cx:300 x:301 1x:313 x:308.301 2fx:2b9 9x:3b 6p:a8.301 p:391.301 x:b7
    p:395.301 p:397.301 p:399.301 1p:39f.301 1p:3a5.301 p:3a9.301 p:3ca.301 19p:399.308 p:3a5.308
    p:3b1.301 p:3b5.301 p:3b7.301 p:3b9.301 p:3cb.301 19p:3b9.308 p:3c5.308 p:3bf.301 p:3c5.301
    p:3c9.301 4p:3d2.301 p:3d2.308 2bp:415.300 p:415.308 1p:413.301 3p:406.308 4p:41a.301 p:418.300
    p:423.306 ap:418.306 1fp:438.306 16p:435.300 p:435.308 1p:433.301 3p:456.308 4p:43a.301
    p:438.300 p:443.306 17p:474.30f p:475.30f 49p:416.306 p:436.306 dp:410.306 p:430.306 p:410.308
    p:430.308 2p:415.306 p:435.306 2p:4d8.308 p:4d9.308 p:416.308 p:436.308 p:417.308 p:437.308
    2p:418.304 p:438.304 p:418.308 p:438.308 p:41e.308 p:43e.308 2p:4e8.308 p:4e9.308 p:42d.308
    p:44d.308 p:423.304 p:443.304 p:423.308 p:443.308 p:423.30b p:443.30b p:427.308 p:447.308
    2p:42b.308 p:44b.308 128p:627.653 p:627.654 p:648.654 p:627.655 p:64a.654 99p:6d5.654 1p:6c1.654
    10p:6d2.654 255p:928.93c 7p:930.93c 2p:933.93c 23x:915.93c x:916.93c x:917.93c x:91c.93c
    x:921.93c x:922.93c x:92b.93c x:92f.93c 6bp:9c7.9be p:9c7.9d7 fx:9a1.9bc x:9a2.9bc 1x:9af.9bc
    53x:a32.a3c 2x:a38.a3c 22x:a16.a3c x:a17.a3c x:a1c.a3c 2x:a2b.a3c e9p:b47.b56 2p:b47.b3e
    p:b47.b57 fx:b21.b3c x:b22.b3c 36p:b92.bd7 35p:bc6.bbe p:bc7.bbe p:bc6.bd7 7bp:c46.c56
    77p:cbf.cd5 6p:cc6.cd5 p:cc6.cd6 1p:cc6.cc2 p:cca.cd5 7ep:d46.d3e p:d47.d3e p:d46.d57
    8dp:dd9.dca 1p:dd9.dcf p:ddc.dca p:dd9.ddf 164x:f42.fb7 9x:f4c.fb7 4x:f51.fb7 4x:f56.fb7
    4x:f5b.fb7 cx:f40.fb5 9x:f71.f72 1x:f71.f74 x:fb2.f80 1x:fb3.f80 8x:f71.f80 11x:f92.fb7
    9x:f9c.fb7 4x:fa1.fb7 4x:fa6.fb7 4x:fab.fb7 cx:f90.fb5 6cp:1025.102e adfp:1b05.1b35 1p:1b07.1b35
    1p:1b09.1b35 1p:1b0b.1b35 1p:1b0d.1b35 3p:1b11.1b35 28p:1b3a.1b35 1p:1b3c.1b35 2p:1b3e.1b35
    p:1b3f.1b35 1p:1b42.1b35 2bcp:41.325 p:61.325 p:42.307 p:62.307 p:42.323 p:62.323 p:42.331
    p:62.331 p:c7.301 p:e7.301 p:44.307 p:64.307 p:44.323 p:64.323 p:44.331 p:64.331 p:44.327
    p:64.327 p:44.32d p:64.32d p:112.300 p:113.300 p:112.301 p:113.301 p:45.32d p:65.32d p:45.330
    p:65.330 p:228.306 p:229.306 p:46.307 p:66.307 p:47.304 p:67.304 p:48.307 p:68.307 p:48.323
    p:68.323 p:48.308 p:68.308 p:48.327 p:68.327 p:48.32e p:68.32e p:49.330 p:69.330 p:cf.301
    p:ef.301 p:4b.301 p:6b.301 p:4b.323 p:6b.323 p:4b.331 p:6b.331 p:4c.323 p:6c.323 p:1e36.304
    p:1e37.304 p:4c.331 p:6c.331 p:4c.32d p:6c.32d p:4d.301 p:6d.301 p:4d.307 p:6d.307 p:4d.323
    p:6d.323 p:4e.307 p:6e.307 p:4e.323 p:6e.323 p:4e.331 p:6e.331 p:4e.32d p:6e.32d p:d5.301
    p:f5.301 p:d5.308 p:f5.308 p:14c.300 p:14d.300 p:14c.301 p:14d.301 p:50.301 p:70.301 p:50.307
    p:70.307 p:52.307 p:72.307 p:52.323 p:72.323 p:1e5a.304 p:1e5b.304 p:52.331 p:72.331 p:53.307
    p:73.307 p:53.323 p:73.323 p:15a.307 p:15b.307 p:160.307 p:161.307 p:1e62.307 p:1e63.307
    p:54.307 p:74.307 p:54.323 p:74.323 p:54.331 p:74.331 p:54.32d p:74.32d p:55.324 p:75.324
    p:55.330 p:75.330 p:55.32d p:75.32d p:168.301 p:169.301 p:16a.308 p:16b.308 p:56.303 p:76.303
    p:56.323 p:76.323 p:57.300 p:77.300 p:57.301 p:77.301 p:57.308 p:77.308 p:57.307 p:77.307
    p:57.323 p:77.323 p:58.307 p:78.307 p:58.308 p:78.308 p:59.307 p:79.307 p:5a.302 p:7a.302
    p:5a.323 p:7a.323 p:5a.331 p:7a.331 p:68.331 p:74.308 p:77.30a p:79.30a 1p:17f.307 4p:41.323
    p:61.323 p:41.309 p:61.309 p:c2.301 p:e2.301 p:c2.300 p:e2.300 p:c2.309 p:e2.309 p:c2.303
    p:e2.303 p:1ea0.302 p:1ea1.302 p:102.301 p:103.301 p:102.300 p:103.300 p:102.309 p:103.309
    p:102.303 p:103.303 p:1ea0.306 p:1ea1.306 p:45.323 p:65.323 p:45.309 p:65.309 p:45.303 p:65.303
    p:ca.301 p:ea.301 p:ca.300 p:ea.300 p:ca.309 p:ea.309 p:ca.303 p:ea.303 p:1eb8.302 p:1eb9.302
    p:49.309 p:69.309 p:49.323 p:69.323 p:4f.323 p:6f.323 p:4f.309 p:6f.309 p:d4.301 p:f4.301
    p:d4.300 p:f4.300 p:d4.309 p:f4.309 p:d4.303 p:f4.303 p:1ecc.302 p:1ecd.302 p:1a0.301 p:1a1.301
    p:1a0.300 p:1a1.300 p:1a0.309 p:1a1.309 p:1a0.303 p:1a1.303 p:1a0.323 p:1a1.323 p:55.323
    p:75.323 p:55.309 p:75.309 p:1af.301 p:1b0.301 p:1af.300 p:1b0.300 p:1af.309 p:1b0.309 p:1af.303
    p:1b0.303 p:1af.323 p:1b0.323 p:59.300 p:79.300 p:59.323 p:79.323 p:59.309 p:79.309 p:59.303
    p:79.303 6p:3b1.313 p:3b1.314 p:1f00.300 p:1f01.300 p:1f00.301 p:1f01.301 p:1f00.342 p:1f01.342
    p:391.313 p:391.314 p:1f08.300 p:1f09.300 p:1f08.301 p:1f09.301 p:1f08.342 p:1f09.342 p:3b5.313
    p:3b5.314 p:1f10.300 p:1f11.300 p:1f10.301 p:1f11.301 2p:395.313 p:395.314 p:1f18.300 p:1f19.300
    p:1f18.301 p:1f19.301 2p:3b7.313 p:3b7.314 p:1f20.300 p:1f21.300 p:1f20.301 p:1f21.301
    p:1f20.342 p:1f21.342 p:397.313 p:397.314 p:1f28.300 p:1f29.300 p:1f28.301 p:1f29.301 p:1f28.342
    p:1f29.342 p:3b9.313 p:3b9.314 p:1f30.300 p:1f31.300 p:1f30.301 p:1f31.301 p:1f30.342 p:1f31.342
    p:399.313 p:399.314 p:1f38.300 p:1f39.300 p:1f38.301 p:1f39.301 p:1f38.342 p:1f39.342 p:3bf.313
    p:3bf.314 p:1f40.300 p:1f41.300 p:1f40.301 p:1f41.301 2p:39f.313 p:39f.314 p:1f48.300 p:1f49.300
    p:1f48.301 p:1f49.301 2p:3c5.313 p:3c5.314 p:1f50.300 p:1f51.300 p:1f50.301 p:1f51.301
    p:1f50.342 p:1f51.342 1p:3a5.314 1p:1f59.300 1p:1f59.301 1p:1f59.342 p:3c9.313 p:3c9.314
    p:1f60.300 p:1f61.300 p:1f60.301 p:1f61.301 p:1f60.342 p:1f61.342 p:3a9.313 p:3a9.314 p:1f68.300
    p:1f69.300 p:1f68.301 p:1f69.301 p:1f68.342 p:1f69.342 p:3b1.300 x:3b1.301 p:3b5.300 x:3b5.301
    p:3b7.300 x:3b7.301 p:3b9.300 x:3b9.301 p:3bf.300 x:3bf.301 p:3c5.300 x:3c5.301 p:3c9.300
    x:3c9.301 2p:1f00.345 p:1f01.345 p:1f02.345 p:1f03.345 p:1f04.345 p:1f05.345 p:1f06.345
    p:1f07.345 p:1f08.345 p:1f09.345 p:1f0a.345 p:1f0b.345 p:1f0c.345 p:1f0d.345 p:1f0e.345
    p:1f0f.345 p:1f20.345 p:1f21.345 p:1f22.345 p:1f23.345 p:1f24.345 p:1f25.345 p:1f26.345
    p:1f27.345 p:1f28.345 p:1f29.345 p:1f2a.345 p:1f2b.345 p:1f2c.345 p:1f2d.345 p:1f2e.345
    p:1f2f.345 p:1f60.345 p:1f61.345 p:1f62.345 p:1f63.345 p:1f64.345 p:1f65.345 p:1f66.345
    p:1f67.345 p:1f68.345 p:1f69.345 p:1f6a.345 p:1f6b.345 p:1f6c.345 p:1f6d.345 p:1f6e.345
    p:1f6f.345 p:3b1.306 p:3b1.304 p:1f70.345 p:3b1.345 p:3ac.345 1p:3b1.342 p:1fb6.345 p:391.306
    p:391.304 p:391.300 x:391.301 p:391.345 1x:3b9 2p:a8.342 p:1f74.345 p:3b7.345 p:3ae.345
    1p:3b7.342 p:1fc6.345 p:395.300 x:395.301 p:397.300 x:397.301 p:397.345 p:1fbf.300 p:1fbf.301
    p:1fbf.342 p:3b9.306 p:3b9.304 p:3ca.300 x:3b9.308.301 2p:3b9.342 p:3ca.342 p:399.306 p:399.304
    p:399.300 x:399.301 1p:1ffe.300 p:1ffe.301 p:1ffe.342 p:3c5.306 p:3c5.304 p:3cb.300
    x:3c5.308.301 p:3c1.313 p:3c1.314 p:3c5.342 p:3cb.342 p:3a5.306 p:3a5.304 p:3a5.300 x:3a5.301
    p:3a1.314 p:a8.300 x:a8.301 x:60 2p:1f7c.345 p:3c9.345 p:3ce.345 1p:3c9.342 p:1ff6.345 p:39f.300
    x:39f.301 p:3a9.300 x:3a9.301 p:3a9.345 x:b4 2x:2002 x:2003 124x:3a9 3x:4b x:41.30a 6ep:2190.338
    p:2192.338 12p:2194.338 1ep:21d0.338 p:21d4.338 p:21d2.338 34p:2203.338 4p:2208.338 2p:220b.338
    17p:2223.338 1p:2225.338 1ap:223c.338 2p:2243.338 2p:2245.338 1p:2248.338 16p:3d.338 1p:2261.338
    ap:224d.338 p:3c.338 p:3e.338 p:2264.338 p:2265.338 2p:2272.338 p:2273.338 2p:2276.338
    p:2277.338 6p:227a.338 p:227b.338 2p:2282.338 p:2283.338 2p:2286.338 p:2287.338 22p:22a2.338
    p:22a8.338 p:22a9.338 p:22ab.338 30p:227c.338 p:227d.338 p:2291.338 p:2292.338 6p:22b2.338
    p:22b3.338 p:22b4.338 p:22b5.338 3bx:3008 x:3009 7b1x:2add.338 56fp:304b.3099 1p:304d.3099
    1p:304f.3099 1p:3051.3099 1p:3053.3099 1p:3055.3099 1p:3057.3099 1p:3059.3099 1p:305b.3099
    1p:305d.3099 1p:305f.3099 1p:3061.3099 2p:3064.3099 1p:3066.3099 1p:3068.3099 6p:306f.3099
    p:306f.309a 1p:3072.3099 p:3072.309a 1p:3075.3099 p:3075.309a 1p:3078.3099 p:3078.309a
    1p:307b.3099 p:307b.309a 16p:3046.3099 9p:309d.3099 dp:30ab.3099 1p:30ad.3099 1p:30af.3099
    1p:30b1.3099 1p:30b3.3099 1p:30b5.3099 1p:30b7.3099 1p:30b9.3099 1p:30bb.3099 1p:30bd.3099
    1p:30bf.3099 1p:30c1.3099 2p:30c4.3099 1p:30c6.3099 1p:30c8.3099 6p:30cf.3099 p:30cf.309a
    1p:30d2.3099 p:30d2.309a 1p:30d5.3099 p:30d5.309a 1p:30d8.3099 p:30d8.309a 1p:30db.3099
    p:30db.309a 16p:30a6.3099 2p:30ef.3099 p:30f0.3099 p:30f1.3099 p:30f2.3099 3p:30fd.3099
    c801x:8c48 x:66f4 x:8eca x:8cc8 x:6ed1 x:4e32 x:53e5 x1:9f9c x:5951 x:91d1 x:5587 x:5948 x:61f6
    x:7669 x:7f85 x:863f x:87ba x:88f8 x:908f x:6a02 x:6d1b x:70d9 x:73de x:843d x:916a x:99f1
    x:4e82 x:5375 x:6b04 x:721b x:862d x:9e1e x:5d50 x:6feb x:85cd x:8964 x:62c9 x:81d8 x:881f
    x:5eca x:6717 x:6d6a x:72fc x:90ce x:4f86 x:51b7 x:52de x:64c4 x:6ad3 x:7210 x:76e7 x:8001
    x:8606 x:865c x:8def x:9732 x:9b6f x:9dfa x:788c x:797f x:7da0 x:83c9 x:9304 x:9e7f x:8ad6
    x:58df x:5f04 x:7c60 x:807e x:7262 x:78ca x:8cc2 x:96f7 x:58d8 x:5c62 x:6a13 x:6dda x:6f0f
    x:7d2f x:7e37 x:964b x:52d2 x:808b x:51dc x:51cc x:7a1c x:7dbe x:83f1 x:9675 x:8b80 x:62cf
    x:6a02 x:8afe x:4e39 x:5be7 x:6012 x:7387 x:7570 x:5317 x:78fb x:4fbf x:5fa9 x:4e0d x:6ccc
    x:6578 x:7d22 x:53c3 x:585e x:7701 x:8449 x:8aaa x:6bba x:8fb0 x:6c88 x:62fe x:82e5 x:63a0
    x:7565 x:4eae x:5169 x:51c9 x:6881 x:7ce7 x:826f x:8ad2 x:91cf x:52f5 x:5442 x:5973 x:5eec
    x:65c5 x:6ffe x:792a x:95ad x:9a6a x:9e97 x:9ece x:529b x:66c6 x:6b77 x:8f62 x:5e74 x:6190
    x:6200 x:649a x:6f23 x:7149 x:7489 x:79ca x:7df4 x:806f x:8f26 x:84ee x:9023 x:934a x:5217
    x:52a3 x:54bd x:70c8 x:88c2 x:8aaa x:5ec9 x:5ff5 x:637b x:6bae x:7c3e x:7375 x:4ee4 x:56f9
    x:5be7 x:5dba x:601c x:73b2 x:7469 x:7f9a x:8046 x:9234 x:96f6 x:9748 x:9818 x:4f8b x:79ae
    x:91b4 x:96b8 x:60e1 x:4e86 x:50da x:5bee x:5c3f x:6599 x:6a02 x:71ce x:7642 x:84fc x:907c
    x:9f8d x:6688 x:962e x:5289 x:677b x:67f3 x:6d41 x:6e9c x:7409 x:7559 x:786b x:7d10 x:985e
    x:516d x:622e x:9678 x:502b x:5d19 x:6dea x:8f2a x:5f8b x:6144 x:6817 x:7387 x:9686 x:5229
    x:540f x:5c65 x:6613 x:674e x:68a8 x:6ce5 x:7406 x:75e2 x:7f79 x:88cf x:88e1 x:91cc x:96e2
    x:533f x:6eba x:541d x:71d0 x:7498 x:85fa x:96a3 x:9c57 x:9e9f x:6797 x:6dcb x:81e8 x:7acb
    x:7b20 x:7c92 x:72c0 x:7099 x:8b58 x:4ec0 x:8336 x:523a x:5207 x:5ea6 x:62d3 x:7cd6 x:5b85
    x:6d1e x:66b4 x:8f3b x:884c x:964d x:898b x:5ed3 x:5140 x:55c0 2x:585a 1x:6674 2x:51de x:732a
    x:76ca x:793c x:795e x:7965 x:798f x:9756 x:7cbe x:7fbd 1x:8612 1x:8af8 2x:9038 x:90fd 3x:98ef
    x:98fc x:9928 x:9db4 x:90de x:96b7 x:4fae x:50e7 x:514d x:52c9 x:52e4 x:5351 x:559d x:5606
    x:5668 x:5840 x:58a8 x:5c64 x:5c6e x:6094 x:6168 x:618e x:61f2 x:654f x:65e2 x:6691 x:6885
    x:6d77 x:6e1a x:6f22 x:716e x:722b x:7422 x:7891 x:793e x:7949 x:7948 x:7950 x:7956 x:795d
    x:798d x:798e x:7a40 x:7a81 x:7bc0 x:7df4 x:7e09 x:7e41 x:7f72 x:8005 x:81ed x1:8279 x:8457
    x:8910 x:8996 x:8b01 x:8b39 x:8cd3 x:8d08 x:8fb6 x:9038 x:96e3 x:97ff x:983b x:6075 x:242ee
    x:8218 2x:4e26 x:51b5 x:5168 x:4f80 x:5145 x:5180 x:52c7 x:52fa x:559d x:5555 x:5599 x:55e2
    x:585a x:58b3 x:5944 x:5954 x:5a62 x:5b28 x:5ed2 x:5ed9 x:5f69 x:5fad x:60d8 x:614e x:6108
    x:618e x:6160 x:61f2 x:6234 x:63c4 x:641c x:6452 x:6556 x:6674 x:6717 x:671b x:6756 x:6b79
    x:6bba x:6d41 x:6edb x:6ecb x:6f22 x:701e x:716e x:77a7 x:7235 x:72af x:732a x:7471 x:7506
    x:753b x:761d x:761f x:76ca x:76db x:76f4 x:774a x:7740 x:78cc x:7ab1 x:7bc0 x:7c7b x:7d5b
    x:7df4 x:7f3e x:8005 x:8352 x:83ef x:8779 x:8941 x:8986 x:8996 x:8abf x:8af8 x:8acb x:8b01
    x:8afe x:8aed x:8b39 x:8b8a x:8d08 x:8f38 x:9072 x:9199 x:9276 x:967c x:96e3 x:9756 x:97db
    x:97ff x:980b x:983b x:9b12 x:9f9c x:2284a x:22844 x:233d5 x:3b9d x:4018 x:4039 x:25249 x:25cd0
    x:27ed3 x:9f43 x:9f8e 43x:5d9.5b4 1x:5f2.5b7 ax:5e9.5c1 x:5e9.5c2 x:5e9.5bc.5c1 x:5e9.5bc.5c2
    x:5d0.5b7 x:5d0.5b8 x:5d0.5bc x:5d1.5bc x:5d2.5bc x:5d3.5bc x:5d4.5bc x:5d5.5bc x:5d6.5bc
    1x:5d8.5bc x:5d9.5bc x:5da.5bc x:5db.5bc x:5dc.5bc 1x:5de.5bc 1x:5e0.5bc x:5e1.5bc 1x:5e3.5bc
    x:5e4.5bc 1x:5e6.5bc x:5e7.5bc x:5e8.5bc x:5e9.5bc x:5ea.5bc x:5d5.5b9 x:5d1.5bf x:5db.5bf
    x:5e4.5bf a7ap:105d2.307 1ap:105da.307 ab5p:11099.110ba 1p:1109b.110ba ep:110a5.110ba
    82p:11131.11127 p:11132.11127 21bp:11347.1133e p:11347.11357 36p:11382.113c9 1p:11384.113bb
    8p:1138b.113c2 2p:11390.113c9 33p:113c2.113c2 1p:113c2.113b8 p:113c2.113c9 f2p:114b9.114ba
    p:114b9.114b0 1p:114b9.114bd fbp:115b8.115af p:115b9.115af 37cp:11935.11930 47e8p:1611e.1611e
    p:1611e.16129 p:1611e.1611f p:16129.1611f p:1611e.16120 p:16121.1611f p:16122.1611f
    p:16121.16120 c3fp:16d67.16d67 p:16d63.16d67 p:16d69.16d67 63f3x:1d157.1d165 x:1d158.1d165
    x:1d158.1d165.1d16e x:1d158.1d165.1d16f x:1d158.1d165.1d170 x:1d158.1d165.1d171
    x:1d158.1d165.1d172 56x:1d1b9.1d165 x:1d1ba.1d165 x:1d1b9.1d165.1d16e x:1d1ba.1d165.1d16e
    x:1d1b9.1d165.1d16f x:1d1ba.1d165.1d16f 1263fx:4e3d x:4e38 x:4e41 x:20122 x:4f60 x:4fae x:4fbb
    x:5002 x:507a x:5099 x:50e7 x:50cf x:349e x:2063a x:514d x:5154 x:5164 x:5177 x:2051c x:34b9
    x:5167 x:518d x:2054b x:5197 x:51a4 x:4ecc x:51ac x:51b5 x:291df x:51f5 x:5203 x:34df x:523b
    x:5246 x:5272 x:5277 x:3515 x:52c7 x:52c9 x:52e4 x:52fa x:5305 x:5306 x:5317 x:5349 x:5351
    x:535a x:5373 x:537d x2:537f x:20a2c x:7070 x:53ca x:53df x:20b63 x:53eb x:53f1 x:5406 x:549e
    x:5438 x:5448 x:5468 x:54a2 x:54f6 x:5510 x:5553 x:5563 x1:5584 x:5599 x:55ab x:55b3 x:55c2
    x:5716 x:5606 x:5717 x:5651 x:5674 x:5207 x:58ee x:57ce x:57f4 x:580d x:578b x:5832 x:5831
    x:58ac x:214e4 x:58f2 x:58f7 x:5906 x:591a x:5922 x:5962 x:216a8 x:216ea x:59ec x:5a1b x:5a27
    x:59d8 x:5a66 x:36ee x:36fc x:5b08 x1:5b3e x:219c8 x:5bc3 x:5bd8 x:5be7 x:5bf3 x:21b18 x:5bff
    x:5c06 x:5f53 x:5c22 x:3781 x:5c60 x:5c6e x:5cc0 x:5c8d x:21de4 x:5d43 x:21de6 x:5d6e x:5d6b
    x:5d7c x:5de1 x:5de2 x:382f x:5dfd x:5e28 x:5e3d x:5e69 x:3862 x:22183 x:387c x:5eb0 x:5eb3
    x:5eb6 x:5eca x:2a392 x:5efe x1:22331 x:8201 x1:5f22 x:38c7 x:232b8 x:261da x:5f62 x:5f6b x:38e3
    x:5f9a x:5fcd x:5fd7 x:5ff9 x:6081 x:393a x:391c x:6094 x:226d4 x:60c7 x:6148 x:614c x:614e
    x:614c x:617a x:618e x:61b2 x:61a4 x:61af x:61de x:61f2 x:61f6 x:6210 x:621b x:625d x:62b1
    x:62d4 x:6350 x:22b0c x:633d x:62fc x:6368 x:6383 x:63e4 x:22bf1 x:6422 x:63c5 x:63a9 x:3a2e
    x:6469 x:647e x:649d x:6477 x:3a6c x:654f x:656c x:2300a x:65e3 x:66f8 x:6649 x:3b19 x:6691
    x:3b08 x:3ae4 x:5192 x:5195 x:6700 x:669c x:80ad x:43d9 x:6717 x:671b x:6721 x:675e x:6753
    x:233c3 x:3b49 x:67fa x:6785 x:6852 x:6885 x:2346d x:688e x:681f x:6914 x:3b9d x:6942 x:69a3
    x:69ea x:6aa8 x:236a3 x:6adb x:3c18 x:6b21 x:238a7 x:6b54 x:3c4e x:6b72 x:6b9f x:6bba x:6bbb
    x:23a8d x:21d0b x:23afa x:6c4e x:23cbc x:6cbf x:6ccd x:6c67 x:6d16 x:6d3e x:6d77 x:6d41 x:6d69
    x:6d78 x:6d85 x:23d1e x:6d34 x:6e2f x:6e6e x:3d33 x:6ecb x:6ec7 x:23ed1 x:6df9 x:6f6e x:23f5e
    x:23f8e x:6fc6 x:7039 x:701e x:701b x:3d96 x:704a x:707d x:7077 x:70ad x:20525 x:7145 x:24263
    x:719c x:243ab x:7228 x:7235 x:7250 x:24608 x:7280 x:7295 x:24735 x:24814 x:737a x:738b x:3eac
    x:73a5 x1:3eb8 x:7447 x:745c x:7471 x:7485 x:74ca x:3f1b x:7524 x:24c36 x:753e x:24c92 x:7570
    x:2219f x:7610 x:24fa1 x:24fb8 x:25044 x:3ffc x:4008 x:76f4 x:250f3 x:250f2 x:25119 x:25133
    x:771e x1:771f x:774a x:4039 x:778b x:4046 x:4096 x:2541d x:784e x:788c x:78cc x:40e3 x:25626
    x:7956 x:2569a x:256c5 x:798f x:79eb x:412f x:7a40 x:7a4a x:7a4f x:2597c x1:25aa7 x:7aee x:4202
    x:25bab x:7bc6 x:7bc9 x:4227 x:25c80 x:7cd2 x:42a0 x:7ce8 x:7ce3 x:7d00 x:25f86 x:7d63 x:4301
    x:7dc7 x:7e02 x:7e45 x:4334 x:26228 x:26247 x:4359 x:262d9 x:7f7a x:2633e x:7f95 x:7ffa x:8005
    x:264da x:26523 x:8060 x:265a8 x:8070 x:2335f x:43d5 x:80b2 x:8103 x:440b x:813e x:5ab5 x:267a7
    x:267b5 x:23393 x:2339c x:8201 x:8204 x:8f9e x:446b x:8291 x:828b x:829d x:52b3 x:82b1 x:82b3
    x:82bd x:82e6 x:26b3c x:82e5 x:831d x:8363 x:83ad x:8323 x:83bd x:83e7 x:8457 x:8353 x:83ca
    x:83cc x:83dc x:26c36 x:26d6b x:26cd5 x:452b x:84f1 x:84f3 x:8516 x:273ca x:8564 x:26f2c x:455d
    x:4561 x:26fb1 x:270d2 x:456b x:8650 x:865c x:8667 x:8669 x:86a9 x:8688 x:870e x:86e2 x:8779
    x:8728 x:876b x:8786 x:45d7 x:87e1 x:8801 x:45f9 x:8860 x:8863 x:27667 x:88d7 x:88de x:4635
    x:88fa x:34bb x:278ae x:27966 x:46be x:46c7 x:8aa0 x:8aed x:8b8a x:8c55 x:27ca8 x:8cab x:8cc1
    x:8d1b x:8d77 x:27f2f x:20804 x:8dcb x:8dbc x:8df0 x:208de x:8ed4 x:8f38 x:285d2 x:285ed x:9094
    x:90f1 x:9111 x:2872e x:911b x:9238 x:92d7 x:92d8 x:927c x:93f9 x:9415 x:28bfa x:958b x:4995
    x:95b7 x:28d77 x:49e6 x:96c3 x:5db2 x:9723 x:29145 x:2921a x:4a6e x:4a76 x:97e0 x:2940a x:4ab2
    x:29496 x1:980b x:9829 x:295b6 x:98e2 x:4b33 x:9929 x:99a7 x:99c2 x:99fe x:4bce x:29b30 x:9b12
    x:9c40 x:9cfd x:4cce x:4ced x:9d67 x:2a0ce x:4cf8 x:2a105 x:2a20e x:2a291 x:9ebb x:4d56 x:9ef9
    x:9efe x:9f05 x:9f0f x:9f16 x:9f3b x:2a600"

end RelayConsole
