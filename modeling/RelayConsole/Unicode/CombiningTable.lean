import RelayConsole.Unicode.Table

namespace RelayConsole

/-- Canonical combining classes other than zero. -/
def Unicode.combiningTable : Array Unicode.Row := Unicode.readTable
  "300k14:e6 k:e8 k3:dc k:e8 k:d8 k4:dc k1:ca k3:dc k1:ca ka:dc k4:1 k3:dc k7:e6 k:f0 k:e6 k2:dc
    k2:e6 k1:dc 1k2:e6 k3:dc k:e6 k:e8 k1:dc k:e6 k:e9 k1:ea k:e9 k1:ea k:e9 kc:e6 113k4:e6 109k:dc
    k3:e6 k:dc k2:e6 k:de k:dc k5:e6 k5:dc k1:e6 k:dc k1:e6 k:de k:e4 k:e6 k:a k:b k:c k:d k:e k:f
    k:10 k:11 k:12 k1:13 k:14 k:15 k:16 1k:17 1k:18 k:19 1k:e6 k:dc 1k:12 48k7:e6 k:1e k:1f k:20
    30k:1b k:1c k:1d k:1e k:1f k:20 k:21 k:22 k1:e6 k1:dc k4:e6 k:dc k1:e6 k:dc 10k:23 65k6:e6
    2k3:e6 k:dc k:e6 2k1:e6 1k:dc k1:e6 k:dc 23k:24 1ek:e6 k:dc k1:e6 k:dc k1:e6 k2:dc k:e6 k1:dc
    k:e6 k:dc k2:e6 k:dc k:e6 k:dc k:e6 k:dc k:e6 k:dc k1:e6 a0k6:e6 k:dc k:e6 9k:dc 18k3:e6 1k8:e6
    1k2:e6 1k4:e6 2bk2:dc 3bk1:e6 k2:dc k3:e6 2ak4:e6 k4:dc kd:e6 1k:dc k1:e6 k:dc k1:e6 k:dc k2:e6
    k2:dc k:1b k:1c k:1d k2:e6 k:dc k1:e6 k1:dc k4:e6 3ck:7 10k:9 3k:e6 k:dc k1:e6 67k:7 10k:9
    30k:e6 3dk:7 10k:9 6ek:7 10k:9 6ek:7 10k:9 7fk:9 6ek:7 10k:9 7k:54 k:5b 65k:7 10k:9 6dk1:9 10k:9
    7ck:9 6dk1:67 k:9 dk3:6b 6ck1:76 k:9 dk3:7a 4ck1:dc 1bk:dc 1k:dc 1k:d8 37k:81 k:82 1k:84 5k3:82
    2k:82 1k1:e6 k:9 1k1:e6 3ek:dc 70k:7 1k1:9 52k:dc 2cfk2:e6 3b4k1:9 1ek:9 9dk:9 ak:e6 cbk:e4
    8fk:de k:e6 k:dc dbk:e6 k:dc 47k:9 14k7:e6 2k:dc 30k4:e6 k5:dc k1:e6 k:dc 1k1:dc k1:e6 k1:dc
    k4:e6 k:dc k11:e6 k:dc 2k5:e6 k:dc k3:e6 k:ea 48k:7 fk:9 26k:e6 k:dc k6:e6 36k1:9 3ak:7 bk1:9
    43k:7 98k2:e6 1k:1 k4:dc k1:e6 k3:dc k:e6 1k6:1 4k:dc 6k:e6 3k1:e6 c6k1:e6 k:dc k6:e6 k:dc k1:e6
    k:ea k:d6 k:dc k:ca k24:e6 k:e8 k1:e4 k:dc k:da k:e6 k:e9 k:dc k:e6 k:dc 2d0k1:e6 k1:1 k3:e6
    k2:1 k1:e6 4k:e6 3k1:1 k:e6 k:dc k:e6 k1:1 k3:dc k:e6 bfek2:e6 8dk:9 60k1f:e6 22ak:da k:e4 k:e8
    k:de k1:e0 69k1:8 75d4k:e6 4k9:e6 20k1:e6 50k1:e6 114k:9 25k:9 97k:9 1bk11:e6 39k2:dc 25k:9
    5fk:7 ck:9 efk:e6 1k1:e6 k:dc 2k1:e6 5k1:e6 1k:e6 34k:9 f6k:9 4f30k:1a 301k6:e6 k6:dc k1:e6
    3cdk:dc e2k:dc 95k4:e6 692k:dc 1k:e6 28k:e6 k:1 k:dc 4k:9 a5k:e6 k:dc 23dk3:e6 41k4:e6 13dk1:e6
    4dk1:dc 1k2:dc 46k1:dc k2:e6 k:dc k:e6 k3:dc 31k:e6 k:dc k:e6 k:dc c0k:9 29k:9 ek:9 39k:9 k:7
    45k2:e6 30k1:9 3ek:7 4ck:9 9k:7 6ak:9 k:7 b2k:7 k:9 50k1:7 10k:9 18k6:e6 3k4:e6 59k2:9 71k:9
    3k:7 17k:e6 63k:9 k:7 fbk:9 k:7 7ek:9 76k:9 k:7 73k:9 10dk:9 k:7 102k1:9 4k:7 9ck:9 53k:9 12k:9
    51k:9 1a5k:9 102k:7 1k1:9 51k:9 1a9k1:9 41eck:9 9c0k4:1 3bk6:e6 4b9k1:6 4cack:1 14c6k1:d8 k2:1
    3k:e2 k4:d8 8k7:dc 2k4:e6 k1:dc 1ek3:e6 94k2:e6 dbbk6:e6 1k10:e6 2k6:e6 1k1:e6 1k4:e6 64k:e6
    a0k6:e6 177k:e6 3dk3:e6 1fck1:e8 k:dc k:e6 fek:e6 k:dc f3k:e6 2k:e6 7k1:e6 5k:e6 1dak6:dc
    6dk5:e6 k:7"

/-- Characters that attach to the one before them. -/
def Unicode.markTable : Array Unicode.Row := Unicode.readTable
  "300m6f 113m6 107m2c 1m 1m1 1m1 1m 48ma 30m14 10m 65m6 2m5 2m1 1m3 23m 1em1a 5bma 3am8 9m 18m3
    1m8 1m2 1m4 2bm2 3bm8 2am17 1m20 36m2 1m11 1m6 am1 1dm2 38m 1m6 2m1 2m2 9m am1 1am 2m2 38m 1m4
    4m1 2m2 3m 1em1 3m bm2 38m 1m7 1m2 1m2 14m1 16m5 1m2 38m 1m6 2m1 2m2 7m2 am1 1em 3bm4 3m2 1m3 9m
    28m4 37m 1m6 1m2 1m3 7m1 bm1 1dm2 38m 1m6 1m2 1m3 7m1 bm1 fm cm3 37m1 1m6 1m2 1m3 9m am1 1dm2
    46m 4m5 1m 1m7 12m1 3dm 2m6 cm7 62m 2m8 bm6 49m1 1bm 1m 1m 4m1 31m13 1m1 5ma 1m23 9m 64m13 17m3
    4m2 1m2 2m6 3m3 dmb 1m am3 2bfm2 3b2m3 1cm2 1dm1 1em1 40m1f 9m 2dm2 1m 75m1 22m 76mb 4mb dbm4
    39m9 1m1c 2m 30m2d 2mb 14m4 2fm10 26m8 cm2 1emc 38md 30m13 98m2 1m14 4m 6m 2m2 c6m3f 2d0m20
    bfem2 8dm 60m1f 22am5 69m1 75d4m3 1m9 20m1 50m1 110m 3m 4m 17m4 4m 53m1 32m11 1am11 dm 26m7 19mc
    2cm3 2fmd 24m 43md cm 8m1 2dm2 32m 1m2 2m1 5m1 1m 29m4 5m1 ecm7 1m1 4f30m 2e1mf 10mf 3cdm e2m
    95m4 686m2 1m1 5m3 28m2 4m a5m1 23dm3 41m4 13dm1 4dm5 46ma 31m3 7am2 35me 29m 2m1 am3 2dma 7m
    3dm2 24md 10m1 2cm cm2 30md 8m3 1m1 5cmb 6m 2m 9dmb 15m3 37m1 1m6 2m1 2m2 9m am1 2m6 3m4 43m8 1m
    2m 1m3 1m4 1m em1 52m11 17m 51m13 ebm6 2m8 1bm1 52m10 6amc 65me 100me f5m5 1m1 2m3 1m 1m1 8dm6
    2m6 3m 1cm9 28m6 1m3 8m 9ma 2emf c6m7 c7m7 1m7 52m15 1md 7am5 3m 1m1 1m6 1m 42m4 1m1 1m4 15bm3
    9m1 1m 30m6 3m4 17m 14e5m 6me 2cc8m11 9c0m4 3bm6 418m 1m36 7m3 51m bm1 4cabm1 1261m2d 2m16 21em4
    3m5 8m7 2m6 1em3 94m2 7bbm36 4m31 8m em 16m4 1me 550m6 1m10 2m6 1m1 1m4 64m a0m6 177m 3dm3 1fcm3
    fem1 f3m 2m 7m1 5m 1dam6 6dm6 c17b5mef"

end RelayConsole
