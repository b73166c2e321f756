import RelayConsole.Unicode.Table

namespace RelayConsole

/-- How letters join in cursive scripts: `u` on both sides, `l` on the left, `r` on the right, `t` not at all
but without breaking the join of their neighbours. -/
def Unicode.joiningTable : Array Unicode.Row := Unicode.readTable
  "300t3f 2t 3t8 1t1f 113t6 107t2c 1t 1t1 1t1 1t 48ta 5u 1r3 u r u r u4 r3 uc 1u6 r u1 t14 eu1 t r2
    5ue r11 u25 r u1 r8 u r u r u1 r1 1r t6 2t5 2t1 1t3 r1 au2 2u 10r t u2 r4 u3 r u8 r u r u r u1 r
    t1a 2r ua r2 ue r1 u3 r u r1 u2 r1 u5 26ta 19u20 t8 9t 18t3 1t8 1t2 1t4 12r u4 r1 u r u9 r u r2
    t2 4u 1u3 1r u r1 5r12 3u 2u4 r u 7t8 u9 r2 1r u1 r1 u5 r ue 1t17 1t1f 37t 1t 4t7 4t 3t6 at1 1dt
    3at 4t3 8t 14t1 1at 2t1 39t 4t1 4t1 2t2 3t 1et1 3t bt1 39t 4t4 1t1 4t 14t1 16t5 1t 3at 2t 1t3 8t
    7t1 bt1 1et 3dt ct 32t 3t 37t 1t2 5t2 1t3 7t1 bt1 1dt 3at 2t 6t 5t1 14t1 1ct1 39t1 4t3 8t 14t1
    1dt 48t 7t2 1t 5at 2t6 ct7 62t 2t8 bt6 49t1 1bt 1t 1t 37t1 1t 5t4 1t 1t2 1t1 5t5 1t3 1t3 1t3 1t3
    1t3 1tb 1t2 9t 66t3 1t5 1t1 2t1 19t1 4t2 10t3 dt 2t1 6t ft 2bft2 3b2t2 1dt1 1et1 1et1 43t6 8t
    2ta 9t 29u 18u58 ct1 u21 t u 75t2 4t1 9t 6t2 dbt1 2t 3at 1t6 1t 1t 2t7 6t9 2t 30t2d 2tb 14t3 30t
    1t4 1t 5t 28t8 ct1 20t3 2t1 1t2 38t 1t1 3t 1t2 3at7 2t1 98t2 1tc 1t6 4t 6t 3t1 c6t3f 2d0t20
    bfet2 8dt 60t1f 22at3 6bt1 75d4t3 1t9 20t1 50t1 110t 3t 4t 19t1 5t 13u31 l 51t1 1at11 dt 26t7
    19ta 2et2 30t 2t3 2t1 27t 43t5 2t1 2t1 ct 8t 2ft 33t 1t2 2t1 5t1 1t 2at1 8t eet 2t 4t 4f30t
    301tf 3cdt e2t 95t4 686t2 1t1 5t3 28t2 4t 80u4 r 1r 1r1 2l r4 u3 l u4 r u2 r 2r t1 4u3 r 90u r u
    r2 u2 r u1 r u r1 u r 17r3 u1 151l u20 r u t3 41t4 13dt1 15r u1 1u1 32t5 30u2 r u10 1ta u2 r
    1bu3 r1 ub t3 2au 1u1 r2 1u r1 u1 r u1 1u r1 u 4r u l 35t 36te 29t 2t1 at2 31t3 2t1 7t 3dt2 24t4
    1t7 3et ct1 34t8 at3 2t 5ft2 2t 1t1 6t 2t 9dt 3t7 15t1 39t1 3t 25t6 3t4 46t5 dt 1t 1t et1 55t7
    2t2 1t 17t 54t5 1t 4t1 1t1 eet3 6t1 1t1 1bt1 55t7 2t 1t1 6at 1t 2t5 1t 65t2 2t3 1t4 103t8 1t1
    100t1 1t 4t 90t3 2t1 4t 20t9 28t5 2t3 8t 9t5 2t2 2etc 1t1 c6t 1t2 1t c9t6 1t5 1t 52t15 2t6 1t1
    1t1 7at5 3t 1t1 1t6 1t 48t1 3t 1t 15bt1 bt1 34t4 5t 1t 17t 14e5t 6te 2cc8tb 3t2 9c0t4 3bt6 418t
    3ft3 51t 4cb8t1 1261t2d 2t16 220t2 11t7 2t6 1et3 94t2 7bbt36 4t31 8t et 16t4 1te 550t6 1t10 2t6
    1t1 1t4 64t a0t6 177t 3dt3 1fct3 fet1 f3t 2t 7t1 5t 1dat6 4bu21 t7"

end RelayConsole
