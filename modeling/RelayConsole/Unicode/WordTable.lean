import RelayConsole.Unicode.Table

namespace RelayConsole

/-- Letters and numbers beyond ASCII. -/
def Unicode.wordTable : Array Unicode.Row := Unicode.readTable
  "aaw 7w1 1w 3w1 1w2 1w16 1w1e 1w1c9 4wb ew4 7w 1w 56w 1dw11 1w1 2w3 1w 6w 1w2 1w 1w13 1w52 1w8a
    8wa5 1w25 2w 6w28 27wd 1w 1w1 1w1 1w 8w1a 4w3 1dwa 5w37 1w10 4w65 1w7 4w7 4wf 2w 10w2f dw64 ew2a
    9w1 4w 5w17 2w12 13w18 7wa 5w17 1w6 7w 8w29 awb 3w6 6w4b 1wf 1w2 4we 2w9 1w12 1w7 2w1 2w15 1w6
    1w 3w3 3w7 2w1 2w1 1w 8w 4w1 1w4 2wb 2w5 2w 4w2 1w5 4w1 2w15 1w6 1w1 1w1 1w1 4w4 4w1 2w1 4w 7w3
    1w 7wf bw2 1w8 1w2 1w15 1w6 1w1 1w4 3w8 1w2 1w1 3w fw3 2w9 9w3 4w2 1w7 2w1 2w15 1w6 1w1 1w4 3w7
    2w1 2w1 9w1 4w1 1w4 2w9 1w6 aw1 1w5 3w2 1w3 3w1 1w 1w1 3w1 3w2 3wb 4w4 3w2 1w2 3w 6w ewc dwc 1w2
    1w16 1wf 3w7 1w2 1w2 8w1 1w2 1w1 2w3 2w9 8w6 1w3 1w7 1w2 1w16 1w9 1w4 3w7 1w2 1w2 8w1 5w2 1w3
    2w9 1w2 cwc 1w2 1w28 2w7 1w2 1w2 1w 5wf 2w12 1w5 1w2 1w11 3w17 1w8 1w 2w6 8w5 1w 1w7 6w9 2w1
    dw39 5w6 6w 2w9 27w1 1w 1w4 1w17 1w 1w12 1w2 2w4 1w 6w 2w9 2w3 20w 1fw13 cw7 1w23 4w12 4wf 1w23
    43w36 1w 2we 6w4d 2w25 1w 5w 2w2a 1w14c 1w3 2w6 1w 1w3 2w28 1w3 2w20 1w3 2w6 1w 1w3 2we 1w38 1w3
    2w42 ew13 3wf 10w55 2w5 3w26b 2w10 1w19 5w4a 3wa 7w13 bw14 cw13 cwc 1w2 1w1 cw33 2w12 ew 4w 3w9
    6w9 16w9 6w58 7w2a 5w45 aw1e 1wb 4w8 dw27 2w4 bw2b 4w19 6wa 25w1b 4w3e 2w13 bw9 6w9 dw 17w1 bw2
    31w33 1we 1w7 3w9 26w29 2w39 1wa ew36 9w9 3w30 2wa 5w2a 2w2 29w3 1w5 1w1 3w 5wbf 13w21 bw115 2w5
    2w25 2w5 2w7 1w 1w 1w 1w1e 2w34 1w6 1w 3w2 1w6 3w3 2w5 4wc 5w2 1w6 73w1 2w5 5wa 6wc 65w 4w 2w9
    1w 3w4 6w 1w 1w 1w3 1wa 2w3 5w4 4w 1w39 2d6w3b 1aw49 276w1d 46cwe4 6w3 3w1 9w 2w25 1w 5w 2w37 7w
    10w16 9w6 1w6 1w6 1w6 1w6 1w6 1w6 1w6 1w1f 2fw 1d5w2 19w8 7w4 2w4 4w55 6w2 1w59 1w3 5w2a 1w5d
    3w3 aw1f 30wf 20w9 1ew7 1we 20w9 27we 140w19bf 40w568c 43w2d 2w10c 3w1b 14w2e 5w7 3w70 27w8 2w66
    2w51 14w14 1w20 8w5 aw33 cw43 1w aw9 18w5 3w 1w2d 5w22 dw1c 3w32 1wb fwa 6w1e 1w36 9wd 2w9 6w16
    3w44 1w 1w 18w2 2wf 2w3 bw5 2w5 2w5 9w6 1w6 1w2a 1wd 6w7a 5w9 6w2ba3 cw16 4w30 2104w16d 2w69
    26w6 cw4 5wb 1wc 1w4 1w 1w1 1w1 1w6b 21w16a 12w3f 2w35 28wb 74w4 1w86 13w9 7w19 6w19 bw58 3w5
    2w5 2w5 2w2 23wb 1w19 1w12 1w1 1we 2wd 22w7a cw2c cw38 11w1 f4w1c 3w30 10w1a 4w23 9w1d 5w2a 5w1d
    2w23 4w7 1w4 2aw9d 2w9 6w23 4w23 4w27 8w33 cwa 1we 1w6 1w1 1wa 1we 1w6 1w1 3w33 cw136 9w15 aw7
    18w5 1w29 1w8 45w5 2w 1w2b 1w1 3w 2w16 2w1e 2w25 8w8 30w12 1w1 5w20 4w19 6w19 26w37 4w13 2w31
    1w1 5w7 1w2 1w1c aw8 17w1e 1w1f 20w7 1w1b 6w4 10w35 aw15 2w1a 5w19 17w6 50w48 37w32 dw32 7w2d
    8w9 6w25 3w 5w16 daw1e 1w29 1w1 3w1 10w5 32w2 3w27 8w15 bw3 1bw11 2ew1b 14w16 9w45 cw1d 1w4 aw38
    9w dw18 7w9 6w32 3w9 4w3 8w22 3w 9w3f 1w3 9wc 1w 4w13 bw11 1w21 2w 6w3 3ew6 1w 1w3 1we 1w9 7w38
    7w9 6w3 1w7 2w1 2w15 1w6 1w1 1w4 3w7 2w1 2w1 3w 6w 5w6 1cw9 1w 2w 1w25 1w9 1w 2w 1w3 1w1 3w 1w
    2cw41 1w2 1w3 5w9 5w2 1ew41 2w1 1w 8w9 a6w35 2w6 19w5 22w3e 1w 3w bw9 26w35 2w 7w9 6w13 1cw1a
    2wd 5wb 4w6 b9w38 67w52 cw7 2w 2w7 1w1 1w1d 1w1 2w1 2w3 dw9 46w7 2w2d 2w5 1w 1w1 1bw32 2w9 11w47
    5w 12w48 67w7 58w20 fw9 6w8 1w2c 1w6 1w fw1c 5w1d 2w15 1wd 49w6 1w1 1w2b 3w 1w1 1w2 1w 2w1 8w9
    6w5 1w1 1w24 1w1 1w3 1w 7w9 6w2b 4w9 f6w16 9w10 1w28 3w2 fw9 56w fw14 2bw399 66w6e 11wc3 a4cw60
    fw42f 11w5 19wf9a 5w246 1ab9w2e 1w9 6c6w238 7w1e 1w9 6w4e 1w9 6w1d 12w2f 10w3 cw9 1w6 1w14 5w12
    1b0w2c 3w9 c6w56 9w18 2w18 2cw4a 4w38 7w10 40w1 1w cw6 9w1cd5 29w1f 61w72 21fdw3 1w6 1w1 1w122
    fw 1dw2 2w ew3 8w18b 904w6a 5wc 3w8 7w9 4w 1051w9 5c6w13 cw13 6cw18 87w54 1w46 1w1 2w 2w1 2w3
    1wb 1w 1w6 1w40 1w3 2w7 1w6 1w1b 1w3 1w4 1w 3w6 1w153 2w18 1w18 1w1e 1w18 1w1e 1w18 1w1e 1w18
    1w1e 1w18 1w7 2w31 700w1e 6w5 d5w6 1w10 2w6 1w1 1w4 5w3d 21w 70w2c aw6 2w9 4w 141w1d 12w2b 4w9
    1d6w1b 4w9 d6w1d 2wa c5w1e 1w15 8w1 e0w6 1w3 1w1 1we 1wc4 2w8 30w43 3w 3w 4w9 317w3a 1w2 1w3
    4cw2c 1we c2w3 1w1a 1w1 1w 2w 1w9 1w3 1w 1w 6w 4w 1w 1w 1w2 1w1 1w 2w 1w 1w 1w 1w 1w1 1w 2w3 1w6
    1w3 1w3 1w 1w9 1w10 5w2 1w4 1w10 244wc 23w19 6w19 6w19 a66w9 406wa6df 20w111d 2w168d 2w1d30
    fw26d 9a2w21d 5e2w134a 5w2129"

/-- Whether a character is a letter or a number. -/
def Unicode.isWord (c : Char) : Bool :=
  c.isAlphanum || (0x80 ≤ c.toNat && (row? wordTable c).isSome)

end RelayConsole
