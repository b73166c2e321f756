import RelayConsole.Unicode.Table

namespace RelayConsole

/-- Bidirectional classes other than left-to-right: `r` right-to-left, `j` Arabic letter, `n` Arabic number,
`u` European number, `p` European separator, `t` European terminator, `q` common separator, `o` neutral,
`y` boundary neutral, `m` nonspacing mark, `w` anything else. -/
def Unicode.directionTable : Array Unicode.Row := Unicode.readTable
  "y8 w4 yd w4 o1 t2 o4 p q p q1 u9 q o5 1ao5 1ao3 y 21o t3 o1 1o 1o1 1o 1t1 4o1 3o 3o 17o 1fo
    1c1o1 7od 2o5 6o1 5o8 1o10 m3f 2m 3m8 1m1f 5o 80o 8cm6 100o 2o1 t 1m2c r m r m1 r m1 r m 8r1a
    4r5 11o1 j t1 j q j o1 ma j 1j2d m14 n9 t n1 j2 m j3 4j5c m6 1o m5 j1 m1 o m3 j1 u9 j13 2j m j1d
    m1a 2j58 ma j er2a m8 r1 o3 r 2m r17 m3 r m8 r m2 r m4 2re 1r18 m2 2r 1ja 5j1f 7m8 j29 m17 1m1f
    37m 1m 4m7 4m 3m6 am1 1dm 3am 4m3 8m 14m1 et1 7t 2m 2m1 39m 4m1 4m1 2m2 3m 1em1 3m bm1 39m 4m4
    1m1 4m 14m1 dt 8m5 1m 3am 2m 1m3 8m 7m1 bm1 1em 3dm cm 25o5 t o 5m 3m 37m 1m2 5m2 1m3 7m1 bm1
    14o6 2m 3am fm1 14m1 1cm1 39m1 4m3 8m 14m1 1dm 48m 7m2 1m 5am 2m6 4t 7m7 62m 2m8 bm6 49m1 1bm 1m
    1m o3 33m1 1m 5m4 1m 1m2 1m1 5m5 1m3 1m3 1m3 1m3 1m3 1mb 1m2 9m 66m3 1m5 1m1 2m1 19m1 4m2 10m3
    dm 2m1 6m fm 2bfm2 30o9 66o 29ao1 75m2 1dm1 1em1 1em1 43m6 8m 2ma 7t 1m 12o9 6oa 7am1 22m 76m2
    4m1 9m 6m2 4o 3o1 98o21 17m1 2m 3am 1m6 1m 1m 2m7 6m9 2m 30m2d 2mb 14m3 30m 1m4 1m 5m 28m8 cm1
    20m3 2m1 1m2 38m 1m1 3m 1m2 3am7 2m1 98m2 1mc 1m6 4m 6m 3m1 c6m3f 20cy1 2o 1o4 1ob 3o 8t2 2o 2o3
    1o 1o4 q o1 3oc 1o6 41t7 1t18 em20 13o 3o bo 2o1 5o1 3o 1o 1o 1o 4t bo 6o3 5o3 3co1 4o81 p t o17
    2o 2of7 2oa 45o19 1o90 19oa a0o1c0 1o152 100o10b 1o66 3o64 1o96 2o1f 1o68 e5o5 4m2 7o6 7fm 60m1f
    o5d 22o19 1o3 1o52 10eo 1o1 3o18 9m3 2o 6o 5o2 59m1 5o 5ao c4o23 1bdco3f 5690o36 146o2 5fm3 o m9
    o1 1em1 50m1 eo21 66o 79m 3m 4m 19m1 1o3 m bt1 3ao3 4cm1 1am11 dm 26m7 19ma 2em2 30m 2m3 2m1 27m
    43m5 2m1 2m1 cm 8m 2fm 33m 1m2 2m1 5m1 1m 2am1 8m 73o1 79m 2m 4m 4f30m 93j20 16bo11 40j1 36j6 o
    2do2 20mf 15o1 2cj 28do 3eo4c 3oc 3o 5cm e2m u1a 7am4 485r5 2r 1r2b 1r1 3r 2r16 1r47 8r8 30r12
    1r1 5r20 3o r19 5r1a 26r37 4r13 2r2e m2 1m1 5m3 r3 1r2 1r1c 2m2 4m r8 7r8 7r3f 20r24 m1 4rb 9r35
    3o6 r15 2r1a 5r19 7r3 cr6 50r48 77r32 7r5 j23 m3 8n9 6rf 19m4 r17 8r1 d0n1e 1r29 1m1 r 2r1 10j5
    8j8 21m5 r27 8j15 ma j8 16r11 m3 r3 26r1b 14r16 am 36me bo13 am 2m1 am2 31m3 2m1 7m 3dm2 24m4
    1m7 3em cm1 34m8 am3 2m 5fm2 2m 1m1 6m 2m 9dm 3m7 15m1 39m1 3m 25m6 3m4 46m5 dm 1m 1m em1 55m7
    2m2 1m 17m 54m5 1m 4m1 1m1 eem3 6m1 1m1 1bm1 55m7 2m 1m1 1foc 3em 1m 2m5 1m 65m2 2m3 1m4 103m8
    1m1 100m1 1m 4m 90m3 2m1 4m 20m5 2m1 28m5 2m3 8m 9m5 2m2 2emc 1m1 c6m 1m2 1m c9m6 1m5 54m15 2m6
    1m1 1m1 7am5 3m 1m1 1m6 1m 48m1 3m 1m 15bm1 bm1 34m4 5m 1m 17m 7ao7 t3 o10 144em 6me 2cc8mb 3m2
    9c0m4 3bm6 418m 3fm3 4fo 1m 4cb8m1 1261m2d 2m16 220m2 11m7 2m6 1em3 3bo1 15o41 m2 o bao56 6a9m36
    4m31 8m em 16m4 1me 550m6 1m10 2m6 1m1 1m4 64m a0m6 177m 3dm3 ft 1ecm3 fem1 f3m 2m 7m1 5m 10arc4
    2r8 m6 4br21 m6 r 4r9 4r1 311j43 4cj3c 1b2o1 10eo2b 4o63 coe 2oe 1oe 1o24 15o4 1fo 3do2 3do b2o5
    9ao3d7 4o10 3oc 3o76 4o5e 6ob 4o fob 4o37 8o9 6o27 8o1d 2o1 4eo153 cod 2oc 3o8 7o2d 1o6 8od 4o8
    7o8 7o92 1o36"

end RelayConsole
