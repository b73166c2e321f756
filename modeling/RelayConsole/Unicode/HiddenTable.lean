import RelayConsole.Unicode.Table

namespace RelayConsole

/-- Characters beyond ASCII that a quoted text shows by number: controls, separators, unassigned and private
ones, and those that would attach to the character before them. -/
def Unicode.hiddenTable : Array Unicode.Row := Unicode.readTable
  "7fz21 cz 252z6f 8z1 6z3 7z 1z 14z e0z6 a6z 26z1 32z1 3z2d 1z 1z1 1z1 1z8 1bz3 6z10 aza 1z 2ez14
    10z 65z7 1z5 2z1 1z3 20z1 1z 1ez1c 59za 1zd 2bz8 7z2 18z3 1z8 1z2 1z6 fz 19z4 1z bz4 20zf 2az38
    37z 1z 4z7 4z 3z6 az1 1dz 2z 8z1 2z1 16z 7z 1z2 4z2 1z 2z5 2z1 2z 1zc 2z 3z3 18z4 1z 6z3 2z1 16z
    7z 2z 2z 2z3 3z17 4z 1z6 az1 3z 1zb 1z 9z 3z 16z 7z 2z 5z2 4z7 1z 2z2 1ze 2z3 cz6 1z7 2z 8z1 2z1
    16z 7z 2z 5z2 1z1 1z5 2z1 2ze 2z 3z3 12za 1z 6z2 3z 4z2 2z 1z 2z2 2z2 3z2 cz4 1z 2z2 3z 3z2 1z14
    15z5 3z 8z 3z 17z 10z2 1z2 4z12 3z 2z1 2z3 az6 az bz 3z 17z az 5z2 2z1 1z 2z16 3z 2z3 az 3zd bz
    3z 29z1 1z 2z4 3z 3z 2z3 3z az3 1az1 2z 12z2 18z 9z 1z1 7z8 2z5 7z6 az1 3zb 30z 2za 8z7 dz24 2z
    1z 5z 18z 1z az 2z8 1z1 5z 1z8 az1 4z1f 18z1 1bz 1z 1z ez 24z11 1z4 1z1 5z30 8z 6z dz24 2dz3 1z5
    1z1 2z1 19z1 4z2 10z3 dz 2z1 6z fz 28z 1z4 1z1 179z 4z1 7z 1z 4z1 29z 4z1 21z 4z1 7z 1z 4z1 fz
    39z 4z1 43z4 1dz2 1az5 56z1 6z1 280z 1cz2 59z6 12zc 13z2 2z8 12zd dz 3ze 34z1 1z6 8z 2za 9z2 az5
    az5 bz4 az5 59z6 5z1 22z 1z4 46z9 1fz3 4z1 3z3 2z 6z6 1z2 2az1 5za 2cz3 1az5 bz2 39z1 2z2 38z
    1z8 1z 2z7 6zc az5 az5 ez55 30z9 4z2 8z 1dz8 cz1 20z3 2z5 38z 1z1 3z 1zc 30z7 2z4 fz2 3ez4 2bz1
    bza 1zc 1z6 4z 6z 3z1 1z4 c0z3f 116z1 6z1 26z1 6z1 8z 1z 1z 1z 1fz1 35z fz ez1 6z 13z1 3z 9z10
    18z7 2fz10 2z1 1bz dz2 22z3d 8cz3 29az15 bz14 714z1 179z2 2z4 2dz 1z4 1z1 38z6 2ze 17z8 7z 7z 7z
    7z 7z 7z 7z 7z20 5ez21 1az 59zb d6z19 10z 29z5 10z 56z3 65z4 2bz 5ez 56z8 30z 726dz2 37z8 15cz13
    2fz3 1z9 20z1 50z1 6z7 ddz13 11z 3z 4z 19z1 5z3 az5 38z7 44z9 cz17 dz 26z7 19za 1zb 1ez5 30z 2z3
    2z1 2z dz bz3 7z 19z 29z5 2z1 2za 3z 8z 1z1 az1 20z 33z 1z2 2z1 5z1 1z 1z17 11z1 8za 6z1 6z1 6z8
    7z 7z 3cz3 75z 2z 4z2 az5 2ba4zb 17z3 31z3 800z18ff 16ez1 6az25 7zb 5z4 1z 18z 5z 1z 2z 2z
    28az1f 10zf az15 23z 13z 4z3 5z 87z3 9dz1 1fz2 6z1 6z1 6z1 3z2 7z 7zc 2z1 cz 1az 13z 2z fz1 ez21
    7bz4 3z3 2dz2 58z dz2 1z2e 2dz82 1dz2 31zf 1bz3 24z8 1ez4 26z9 1ez 25z3 ez29 9ez1 az5 24z3 24z3
    28z7 34za cz fz 7z 2z bz fz 7z 2z2 34zb 137z8 16z9 8z17 6z 2az 9z44 6z1 1z 2cz 2z2 1z1 17z 48z7
    9z2f 13z 2z4 21z2 1bz4 1bz25 38z3 14z1 2fze 4z 3z 1dz9 9z6 9z6 40z1f 25z5 cz8 36z2 1dz1 1bz4
    1az6 4zb 7z4f 49z36 33zc 33z6 2azb az5 26z7 18z7 2zcf 1fz 2az2 1z1 2zf 6z7 9z26 28z7 16za 9z15
    12z3 4z25 1cz13 17z8 1z 36ze 7z3 1ez 2z1 1zb 31z3 2z1 2z 4zd 19z6 az8 24z4 1z8 12z7 23z 3za 34z8
    1z 8z3 2z 10z 14za 12z 1cz2 2z3 6z 2z3e 7z 1z 4z fz bz5 2fz 3zc az7 2z 8z1 2z1 16z 7z 2z 5z2 1z
    1z 4z1 2z1 2z2 1zb 7z1b az 1z1 1z 26z 1z 2ze 1z 2z2 1z 3z 2z26 38z7 2z2 1z 15z 1z 3z1d 30z 2z5
    1z 2z 1z1 1z1 4z7 aza5 2fz 2z5 4z1 1z1 1bz23 33z7 2z 1z1 4za az5 dz12 2bz 1z 2z7 2z5 az5 14z1b
    1bz2 1z 2z3 1z8 17zb8 2fz8 1z1 1z63 53zb 8z1 1z1 8z 2z 18z 5z 2z5 4z 3z8 az45 8z1 2az7 4z 4z1a
    1z9 28z5 2z3 8z8 1z5 2z2 2ezc 1z1 9zc 49z6 az56 1z2 1z 1z57 22zd az5 9z 26zd 1z 6z9 1dz2 20z18
    1z6 1z1 1z4a 7z 2z 26z14 1z8 az5 6z 2z 25z3 2z 1z 1z6 az5 2cz3 azf5 13z1 4z8 fz 24z7 2z2 17z55
    1ze 32zc 39bz65 6fz 5za c4za4b 63zc 430z10 6z18 f9bz4 247z1ab8 1ezb 3z2 az6c5 239z6 1fz az3 51z
    az5 1ez6 1z9 30z6 fz9 az 7z 15z4 13z1af 3azc5 5bz4 19z1 19z2b 4bz4 38za dz3f 4zd 5z8 1cd6z28
    20z60 73z21fc 4z 7z 2z 123ze 1z1c 3z1 1zd 4z7 18cz903 6bz4 dz2 9z6 az1 1z1 1zf5f fdz2 1b4z5 17ze
    11z5e 74z3b f6z9 27z1 3cz4 3z15 2z6 1ez3 3dz14 42z2 1z79 14zb 14zb 57z8 19z86 55z 47z 2z1 1z1
    2z1 4z cz 1z 7z 41z 4z1 8z 7z 1cz 4z 5z 1z2 7z 154z1 124z1 232z36 4z31 8z ez 7z473 1fz5 6z104
    3ez91 2dz9 7z1 az3 2z13f 1ez11 2cz3 az4 1z1cf 1cz3 azd5 1ez1 bz3 1zbf 1fz 3z 2z 7z1 5z8 2zdf 7z
    4z 2z fz c5z1 9z2f 44z6 1z3 az3 2z310 44z4b 3dzc1 4z 1bz 2z 1z1 1z az 4z 1z 1z5 1z3 1z 1z 1z 3z
    2z 1z1 1z 1z 1z 1z 1z 2z 1z1 4z 7z 4z 4z 1z az 11z4 3z 5z 11z33 2z10d 2cz3 64zb fz1 fz fz 25z9
    aez37 1dzc 2cz3 9z6 2zd 6z99 3d9z2 11z2 dz2 daz5 cz3 1ze cz3 38z7 az5 28z7 1ez1 cz3 2zd 9z26
    158z7 ez1 dz2 bz2 39z 1z3 10z1 cz3 az6 93z 67z404 a6e0z1f 111ez1 168ez1 1d31ze 26ez9a1 21ez5e1
    134bz4 212azdcb85"

end RelayConsole
