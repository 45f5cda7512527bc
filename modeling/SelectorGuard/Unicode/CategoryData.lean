/-!
# Runs of the General_Category property

The code space from U+0000 to U+10FFFF is cut into maximal runs of equal General_Category. An
entry "Lu:1A" stands for a run of 0x1A code points of category Lu. Runs follow each other without
gaps, so their lengths add up to 0x110000. The decoder and its meaning are elsewhere.
-/

namespace SelectorGuard.Unicode

/-- General_Category of every code point, as runs in code point order. -/
def categoryRuns : List String := [
  "Cc:20 Zs:1 Po:3 Sc:1 Po:3 Ps:1 Pe:1 Po:1 Sm:1 Po:1 Pd:1 Po:2 Nd:A Po:2 Sm:3 Po:2 Lu:1A Ps:1",
  "Po:1 Pe:1 Sk:1 Pc:1 Sk:1 Ll:1A Ps:1 Sm:1 Pe:1 Sm:1 Cc:21 Zs:1 Po:1 Sc:4 So:1 Po:1 Sk:1 So:1",
  "Lo:1 Pi:1 Sm:1 Cf:1 So:1 Sk:1 So:1 Sm:1 No:2 Sk:1 Ll:1 Po:2 Sk:1 No:1 Lo:1 Pf:1 No:3 Po:1",
  "Lu:17 Sm:1 Lu:7 Ll:18 Sm:1 Ll:8 Lu:1 Ll:1 Lu:1 Ll:1 Lu:1 Ll:1 Lu:1 Ll:1 Lu:1 Ll:1 Lu:1 Ll:1",
  "Lu:1 Ll:1 Lu:1 Ll:1 Lu:1 Ll:1 Lu:1 Ll:1 Lu:1 Ll:1 Lu:1 Ll:1 Lu:1 Ll:1 Lu:1 Ll:1 Lu:1 Ll:1",
  "Lu:1 Ll:1 Lu:1 Ll:1 Lu:1 Ll:1 Lu:1 Ll:1 Lu:1 Ll:1 Lu:1 Ll:1 Lu:1 Ll:1 Lu:1 Ll:1 Lu:1 Ll:1",
  "Lu:1 Ll:1 Lu:1 Ll:1 Lu:1 Ll:1 Lu:1 Ll:2 Lu:1 Ll:1 Lu:1 Ll:1 Lu:1 Ll:1 Lu:1 Ll:1 Lu:1 Ll:1",
  "Lu:1 Ll:1 Lu:1 Ll:1 Lu:1 Ll:2 Lu:1 Ll:1 Lu:1 Ll:1 Lu:1 Ll:1 Lu:1 Ll:1 Lu:1 Ll:1 Lu:1 Ll:1",
  "Lu:1 Ll:1 Lu:1 Ll:1 Lu:1 Ll:1 Lu:1 Ll:1 Lu:1 Ll:1 Lu:1 Ll:1 Lu:1 Ll:1 Lu:1 Ll:1 Lu:1 Ll:1",
  "Lu:1 Ll:1 Lu:1 Ll:1 Lu:1 Ll:1 Lu:1 Ll:1 Lu:1 Ll:1 Lu:1 Ll:1 Lu:1 Ll:1 Lu:1 Ll:1 Lu:2 Ll:1",
  "Lu:1 Ll:1 Lu:1 Ll:3 Lu:2 Ll:1 Lu:1 Ll:1 Lu:2 Ll:1 Lu:3 Ll:2 Lu:4 Ll:1 Lu:2 Ll:1 Lu:3 Ll:3",
  "Lu:2 Ll:1 Lu:2 Ll:1 Lu:1 Ll:1 Lu:1 Ll:1 Lu:2 Ll:1 Lu:1 Ll:2 Lu:1 Ll:1 Lu:2 Ll:1 Lu:3 Ll:1",
  "Lu:1 Ll:1 Lu:2 Ll:2 Lo:1 Lu:1 Ll:3 Lo:4 Lu:1 Lt:1 Ll:1 Lu:1 Lt:1 Ll:1 Lu:1 Lt:1 Ll:1 Lu:1",
  "Ll:1 Lu:1 Ll:1 Lu:1 Ll:1 Lu:1 Ll:1 Lu:1 Ll:1 Lu:1 Ll:1 Lu:1 Ll:1 Lu:1 Ll:2 Lu:1 Ll:1 Lu:1",
  "Ll:1 Lu:1 Ll:1 Lu:1 Ll:1 Lu:1 Ll:1 Lu:1 Ll:1 Lu:1 Ll:1 Lu:1 Ll:1 Lu:1 Ll:2 Lu:1 Lt:1 Ll:1",
  "Lu:1 Ll:1 Lu:3 Ll:1 Lu:1 Ll:1 Lu:1 Ll:1 Lu:1 Ll:1 Lu:1 Ll:1 Lu:1 Ll:1 Lu:1 Ll:1 Lu:1 Ll:1",
  "Lu:1 Ll:1 Lu:1 Ll:1 Lu:1 Ll:1 Lu:1 Ll:1 Lu:1 Ll:1 Lu:1 Ll:1 Lu:1 Ll:1 Lu:1 Ll:1 Lu:1 Ll:1",
  "Lu:1 Ll:1 Lu:1 Ll:1 Lu:1 Ll:1 Lu:1 Ll:1 Lu:1 Ll:1 Lu:1 Ll:1 Lu:1 Ll:1 Lu:1 Ll:1 Lu:1 Ll:1",
  "Lu:1 Ll:1 Lu:1 Ll:1 Lu:1 Ll:1 Lu:1 Ll:7 Lu:2 Ll:1 Lu:2 Ll:2 Lu:1 Ll:1 Lu:4 Ll:1 Lu:1 Ll:1",
  "Lu:1 Ll:1 Lu:1 Ll:1 Lu:1 Ll:45 Lo:1 Ll:1B Lm:12 Sk:4 Lm:C Sk:E Lm:5 Sk:7 Lm:1 Sk:1 Lm:1",
  "Sk:11 Mn:70 Lu:1 Ll:1 Lu:1 Ll:1 Lm:1 Sk:1 Lu:1 Ll:1 Cn:2 Lm:1 Ll:3 Po:1 Lu:1 Cn:4 Sk:2 Lu:1",
  "Po:1 Lu:3 Cn:1 Lu:1 Cn:1 Lu:2 Ll:1 Lu:11 Cn:1 Lu:9 Ll:23 Lu:1 Ll:2 Lu:3 Ll:3 Lu:1 Ll:1 Lu:1",
  "Ll:1 Lu:1 Ll:1 Lu:1 Ll:1 Lu:1 Ll:1 Lu:1 Ll:1 Lu:1 Ll:1 Lu:1 Ll:1 Lu:1 Ll:1 Lu:1 Ll:1 Lu:1",
  "Ll:1 Lu:1 Ll:5 Lu:1 Ll:1 Sm:1 Lu:1 Ll:1 Lu:2 Ll:2 Lu:33 Ll:30 Lu:1 Ll:1 Lu:1 Ll:1 Lu:1 Ll:1",
  "Lu:1 Ll:1 Lu:1 Ll:1 Lu:1 Ll:1 Lu:1 Ll:1 Lu:1 Ll:1 Lu:1 Ll:1 Lu:1 Ll:1 Lu:1 Ll:1 Lu:1 Ll:1",
  "Lu:1 Ll:1 Lu:1 Ll:1 Lu:1 Ll:1 Lu:1 Ll:1 Lu:1 Ll:1 So:1 Mn:5 Me:2 Lu:1 Ll:1 Lu:1 Ll:1 Lu:1",
  "Ll:1 Lu:1 Ll:1 Lu:1 Ll:1 Lu:1 Ll:1 Lu:1 Ll:1 Lu:1 Ll:1 Lu:1 Ll:1 Lu:1 Ll:1 Lu:1 Ll:1 Lu:1",
  "Ll:1 Lu:1 Ll:1 Lu:1 Ll:1 Lu:1 Ll:1 Lu:1 Ll:1 Lu:1 Ll:1 Lu:1 Ll:1 Lu:1 Ll:1 Lu:1 Ll:1 Lu:1",
  "Ll:1 Lu:1 Ll:1 Lu:1 Ll:1 Lu:1 Ll:1 Lu:1 Ll:1 Lu:1 Ll:1 Lu:1 Ll:1 Lu:2 Ll:1 Lu:1 Ll:1 Lu:1",
  "Ll:1 Lu:1 Ll:1 Lu:1 Ll:1 Lu:1 Ll:1 Lu:1 Ll:2 Lu:1 Ll:1 Lu:1 Ll:1 Lu:1 Ll:1 Lu:1 Ll:1 Lu:1",
  "Ll:1 Lu:1 Ll:1 Lu:1 Ll:1 Lu:1 Ll:1 Lu:1 Ll:1 Lu:1 Ll:1 Lu:1 Ll:1 Lu:1 Ll:1 Lu:1 Ll:1 Lu:1",
  "Ll:1 Lu:1 Ll:1 Lu:1 Ll:1 Lu:1 Ll:1 Lu:1 Ll:1 Lu:1 Ll:1 Lu:1 Ll:1 Lu:1 Ll:1 Lu:1 Ll:1 Lu:1",
  "Ll:1 Lu:1 Ll:1 Lu:1 Ll:1 Lu:1 Ll:1 Lu:1 Ll:1 Lu:1 Ll:1 Lu:1 Ll:1 Lu:1 Ll:1 Lu:1 Ll:1 Lu:1",
  "Ll:1 Lu:1 Ll:1 Lu:1 Ll:1 Lu:1 Ll:1 Lu:1 Ll:1 Lu:1 Ll:1 Lu:1 Ll:1 Lu:1 Ll:1 Lu:1 Ll:1 Lu:1",
  "Ll:1 Lu:1 Ll:1 Lu:1 Ll:1 Lu:1 Ll:1 Lu:1 Ll:1 Lu:1 Ll:1 Lu:1 Ll:1 Lu:1 Ll:1 Cn:1 Lu:26 Cn:2",
  "Lm:1 Po:6 Ll:29 Po:1 Pd:1 Cn:2 So:2 Sc:1 Cn:1 Mn:2D Pd:1 Mn:1 Po:1 Mn:2 Po:1 Mn:2 Po:1 Mn:1",
  "Cn:8 Lo:1B Cn:4 Lo:4 Po:2 Cn:B Cf:6 Sm:3 Po:2 Sc:1 Po:2 So:2 Mn:B Po:1 Cf:1 Po:3 Lo:20 Lm:1",
  "Lo:A Mn:15 Nd:A Po:4 Lo:2 Mn:1 Lo:63 Po:1 Lo:1 Mn:7 Cf:1 So:1 Mn:6 Lm:2 Mn:2 So:1 Mn:4 Lo:2",
  "Nd:A Lo:3 So:2 Lo:1 Po:E Cn:1 Cf:1 Lo:1 Mn:1 Lo:1E Mn:1B Cn:2 Lo:59 Mn:B Lo:1 Cn:E Nd:A",
  "Lo:21 Mn:9 Lm:2 So:1 Po:3 Lm:1 Cn:2 Mn:1 Sc:2 Lo:16 Mn:4 Lm:1 Mn:9 Lm:1 Mn:3 Lm:1 Mn:5 Cn:2",
  "Po:F Cn:1 Lo:19 Mn:3 Cn:2 Po:1 Cn:1 Lo:B Cn:5 Lo:18 Sk:1 Lo:6 Cn:1 Cf:2 Cn:5 Mn:9 Lo:29 Lm:1",
  "Mn:18 Cf:1 Mn:20 Mc:1 Lo:36 Mn:1 Mc:1 Mn:1 Lo:1 Mc:3 Mn:8 Mc:4 Mn:1 Mc:2 Lo:1 Mn:7 Lo:A Mn:2",
  "Po:2 Nd:A Po:1 Lm:1 Lo:F Mn:1 Mc:2 Cn:1 Lo:8 Cn:2 Lo:2 Cn:2 Lo:16 Cn:1 Lo:7 Cn:1 Lo:1 Cn:3",
  "Lo:4 Cn:2 Mn:1 Lo:1 Mc:3 Mn:4 Cn:2 Mc:2 Cn:2 Mc:2 Mn:1 Lo:1 Cn:8 Mc:1 Cn:4 Lo:2 Cn:1 Lo:3",
  "Mn:2 Cn:2 Nd:A Lo:2 Sc:2 No:6 So:1 Sc:1 Lo:1 Po:1 Mn:1 Cn:2 Mn:2 Mc:1 Cn:1 Lo:6 Cn:4 Lo:2",
  "Cn:2 Lo:16 Cn:1 Lo:7 Cn:1 Lo:2 Cn:1 Lo:2 Cn:1 Lo:2 Cn:2 Mn:1 Cn:1 Mc:3 Mn:2 Cn:4 Mn:2 Cn:2",
  "Mn:3 Cn:3 Mn:1 Cn:7 Lo:4 Cn:1 Lo:1 Cn:7 Nd:A Mn:2 Lo:3 Mn:1 Po:1 Cn:A Mn:2 Mc:1 Cn:1 Lo:9",
  "Cn:1 Lo:3 Cn:1 Lo:16 Cn:1 Lo:7 Cn:1 Lo:2 Cn:1 Lo:5 Cn:2 Mn:1 Lo:1 Mc:3 Mn:5 Cn:1 Mn:2 Mc:1",
  "Cn:1 Mc:2 Mn:1 Cn:2 Lo:1 Cn:F Lo:2 Mn:2 Cn:2 Nd:A Po:1 Sc:1 Cn:7 Lo:1 Mn:6 Cn:1 Mn:1 Mc:2",
  "Cn:1 Lo:8 Cn:2 Lo:2 Cn:2 Lo:16 Cn:1 Lo:7 Cn:1 Lo:2 Cn:1 Lo:5 Cn:2 Mn:1 Lo:1 Mc:1 Mn:1 Mc:1",
  "Mn:4 Cn:2 Mc:2 Cn:2 Mc:2 Mn:1 Cn:7 Mn:2 Mc:1 Cn:4 Lo:2 Cn:1 Lo:3 Mn:2 Cn:2 Nd:A So:1 Lo:1",
  "No:6 Cn:A Mn:1 Lo:1 Cn:1 Lo:6 Cn:3 Lo:3 Cn:1 Lo:4 Cn:3 Lo:2 Cn:1 Lo:1 Cn:1 Lo:2 Cn:3 Lo:2",
  "Cn:3 Lo:3 Cn:3 Lo:C Cn:4 Mc:2 Mn:1 Mc:2 Cn:3 Mc:3 Cn:1 Mc:3 Mn:1 Cn:2 Lo:1 Cn:6 Mc:1 Cn:E",
  "Nd:A No:3 So:6 Sc:1 So:1 Cn:5 Mn:1 Mc:3 Mn:1 Lo:8 Cn:1 Lo:3 Cn:1 Lo:17 Cn:1 Lo:10 Cn:2 Mn:1",
  "Lo:1 Mn:3 Mc:4 Cn:1 Mn:3 Cn:1 Mn:4 Cn:7 Mn:2 Cn:1 Lo:3 Cn:2 Lo:1 Cn:2 Lo:2 Mn:2 Cn:2 Nd:A",
  "Cn:7 Po:1 No:7 So:1 Lo:1 Mn:1 Mc:2 Po:1 Lo:8 Cn:1 Lo:3 Cn:1 Lo:17 Cn:1 Lo:A Cn:1 Lo:5 Cn:2",
  "Mn:1 Lo:1 Mc:1 Mn:1 Mc:5 Cn:1 Mn:1 Mc:2 Cn:1 Mc:2 Mn:2 Cn:7 Mc:2 Cn:6 Lo:2 Cn:1 Lo:2 Mn:2",
  "Cn:2 Nd:A Cn:1 Lo:2 Mc:1 Cn:C Mn:2 Mc:2 Lo:9 Cn:1 Lo:3 Cn:1 Lo:29 Mn:2 Lo:1 Mc:3 Mn:4 Cn:1",
  "Mc:3 Cn:1 Mc:3 Mn:1 Lo:1 So:1 Cn:4 Lo:3 Mc:1 No:7 Lo:3 Mn:2 Cn:2 Nd:A No:9 So:1 Lo:6 Cn:1",
  "Mn:1 Mc:2 Cn:1 Lo:12 Cn:3 Lo:18 Cn:1 Lo:9 Cn:1 Lo:1 Cn:2 Lo:7 Cn:3 Mn:1 Cn:4 Mc:3 Mn:3 Cn:1",
  "Mn:1 Cn:1 Mc:8 Cn:6 Nd:A Cn:2 Mc:2 Po:1 Cn:C Lo:30 Mn:1 Lo:2 Mn:7 Cn:4 Sc:1 Lo:6 Lm:1 Mn:8",
  "Po:1 Nd:A Po:2 Cn:25 Lo:2 Cn:1 Lo:1 Cn:1 Lo:5 Cn:1 Lo:18 Cn:1 Lo:1 Cn:1 Lo:A Mn:1 Lo:2 Mn:9",
  "Lo:1 Cn:2 Lo:5 Cn:1 Lm:1 Cn:1 Mn:7 Cn:1 Nd:A Cn:2 Lo:4 Cn:20 Lo:1 So:3 Po:F So:1 Po:1 So:3",
  "Mn:2 So:6 Nd:A No:A So:1 Mn:1 So:1 Mn:1 So:1 Mn:1 Ps:1 Pe:1 Ps:1 Pe:1 Mc:2 Lo:8 Cn:1 Lo:24",
  "Cn:4 Mn:E Mc:1 Mn:5 Po:1 Mn:2 Lo:5 Mn:B Cn:1 Mn:24 Cn:1 So:8 Mn:1 So:6 Cn:1 So:2 Po:5 So:4",
  "Po:2 Cn:25 Lo:2B Mc:2 Mn:4 Mc:1 Mn:6 Mc:1 Mn:2 Mc:2 Mn:2 Lo:1 Nd:A Po:6 Lo:6 Mc:2 Mn:2 Lo:4",
  "Mn:3 Lo:1 Mc:3 Lo:2 Mc:7 Lo:3 Mn:4 Lo:D Mn:1 Mc:2 Mn:2 Mc:6 Mn:1 Lo:1 Mc:1 Nd:A Mc:3 Mn:1",
  "So:2 Lu:26 Cn:1 Lu:1 Cn:5 Lu:1 Cn:2 Ll:2B Po:1 Lm:1 Ll:3 Lo:149 Cn:1 Lo:4 Cn:2 Lo:7 Cn:1",
  "Lo:1 Cn:1 Lo:4 Cn:2 Lo:29 Cn:1 Lo:4 Cn:2 Lo:21 Cn:1 Lo:4 Cn:2 Lo:7 Cn:1 Lo:1 Cn:1 Lo:4 Cn:2",
  "Lo:F Cn:1 Lo:39 Cn:1 Lo:4 Cn:2 Lo:43 Cn:2 Mn:3 Po:9 No:14 Cn:3 Lo:10 So:A Cn:6 Lu:56 Cn:2",
  "Ll:6 Cn:2 Pd:1 Lo:26C So:1 Po:1 Lo:11 Zs:1 Lo:1A Ps:1 Pe:1 Cn:3 Lo:4B Po:3 Nl:3 Lo:8 Cn:7",
  "Lo:12 Mn:3 Mc:1 Cn:9 Lo:13 Mn:2 Mc:1 Po:2 Cn:9 Lo:12 Mn:2 Cn:C Lo:D Cn:1 Lo:3 Cn:1 Mn:2 Cn:C",
  "Lo:34 Mn:2 Mc:1 Mn:7 Mc:8 Mn:1 Mc:2 Mn:B Po:3 Lm:1 Po:3 Sc:1 Lo:1 Mn:1 Cn:2 Nd:A Cn:6 No:A",
  "Cn:6 Po:6 Pd:1 Po:4 Mn:3 Cf:1 Mn:1 Nd:A Cn:6 Lo:23 Lm:1 Lo:35 Cn:7 Lo:5 Mn:2 Lo:22 Mn:1 Lo:1",
  "Cn:5 Lo:46 Cn:A Lo:1F Cn:1 Mn:3 Mc:4 Mn:2 Mc:3 Cn:4 Mc:2 Mn:1 Mc:6 Mn:3 Cn:4 So:1 Cn:3 Po:2",
  "Nd:A Lo:1E Cn:2 Lo:5 Cn:B Lo:2C Cn:4 Lo:1A Cn:6 Nd:A No:1 Cn:3 So:22 Lo:17 Mn:2 Mc:2 Mn:1",
  "Cn:2 Po:2 Lo:35 Mc:1 Mn:1 Mc:1 Mn:7 Cn:1 Mn:1 Mc:1 Mn:1 Mc:2 Mn:8 Mc:6 Mn:A Cn:2 Mn:1 Nd:A",
  "Cn:6 Nd:A Cn:6 Po:7 Lm:1 Po:6 Cn:2 Mn:E Me:1 Mn:10 Cn:31 Mn:4 Mc:1 Lo:2F Mn:1 Mc:1 Mn:5 Mc:1",
  "Mn:1 Mc:5 Mn:1 Mc:2 Lo:8 Cn:1 Po:2 Nd:A Po:7 So:A Mn:9 So:9 Po:3 Mn:2 Mc:1 Lo:1E Mc:1 Mn:4",
  "Mc:2 Mn:2 Mc:1 Mn:3 Lo:2 Nd:A Lo:2C Mn:1 Mc:1 Mn:2 Mc:3 Mn:1 Mc:1 Mn:3 Mc:2 Cn:8 Po:4 Lo:24",
  "Mc:8 Mn:8 Mc:2 Mn:2 Cn:3 Po:5 Nd:A Cn:3 Lo:3 Nd:A Lo:1E Lm:6 Po:2 Ll:9 Lu:1 Ll:1 Cn:5 Lu:2B",
  "Cn:2 Lu:3 Po:8 Cn:8 Mn:3 Po:1 Mn:D Mc:1 Mn:7 Lo:4 Mn:1 Lo:6 Mn:1 Lo:2 Mc:1 Mn:2 Lo:1 Cn:5",
  "Ll:2C Lm:3F Ll:D Lm:1 Ll:22 Lm:25 Mn:40 Lu:1 Ll:1 Lu:1 Ll:1 Lu:1 Ll:1 Lu:1 Ll:1 Lu:1 Ll:1",
  "Lu:1 Ll:1 Lu:1 Ll:1 Lu:1 Ll:1 Lu:1 Ll:1 Lu:1 Ll:1 Lu:1 Ll:1 Lu:1 Ll:1 Lu:1 Ll:1 Lu:1 Ll:1",
  "Lu:1 Ll:1 Lu:1 Ll:1 Lu:1 Ll:1 Lu:1 Ll:1 Lu:1 Ll:1 Lu:1 Ll:1 Lu:1 Ll:1 Lu:1 Ll:1 Lu:1 Ll:1",
  "Lu:1 Ll:1 Lu:1 Ll:1 Lu:1 Ll:1 Lu:1 Ll:1 Lu:1 Ll:1 Lu:1 Ll:1 Lu:1 Ll:1 Lu:1 Ll:1 Lu:1 Ll:1",
  "Lu:1 Ll:1 Lu:1 Ll:1 Lu:1 Ll:1 Lu:1 Ll:1 Lu:1 Ll:1 Lu:1 Ll:1 Lu:1 Ll:1 Lu:1 Ll:1 Lu:1 Ll:1",
  "Lu:1 Ll:1 Lu:1 Ll:1 Lu:1 Ll:1 Lu:1 Ll:1 Lu:1 Ll:1 Lu:1 Ll:1 Lu:1 Ll:1 Lu:1 Ll:1 Lu:1 Ll:1",
  "Lu:1 Ll:1 Lu:1 Ll:1 Lu:1 Ll:1 Lu:1 Ll:1 Lu:1 Ll:1 Lu:1 Ll:1 Lu:1 Ll:1 Lu:1 Ll:1 Lu:1 Ll:1",
  "Lu:1 Ll:1 Lu:1 Ll:1 Lu:1 Ll:1 Lu:1 Ll:1 Lu:1 Ll:1 Lu:1 Ll:1 Lu:1 Ll:1 Lu:1 Ll:1 Lu:1 Ll:1",
  "Lu:1 Ll:1 Lu:1 Ll:1 Lu:1 Ll:1 Lu:1 Ll:1 Lu:1 Ll:1 Lu:1 Ll:1 Lu:1 Ll:9 Lu:1 Ll:1 Lu:1 Ll:1",
  "Lu:1 Ll:1 Lu:1 Ll:1 Lu:1 Ll:1 Lu:1 Ll:1 Lu:1 Ll:1 Lu:1 Ll:1 Lu:1 Ll:1 Lu:1 Ll:1 Lu:1 Ll:1",
  "Lu:1 Ll:1 Lu:1 Ll:1 Lu:1 Ll:1 Lu:1 Ll:1 Lu:1 Ll:1 Lu:1 Ll:1 Lu:1 Ll:1 Lu:1 Ll:1 Lu:1 Ll:1",
  "Lu:1 Ll:1 Lu:1 Ll:1 Lu:1 Ll:1 Lu:1 Ll:1 Lu:1 Ll:1 Lu:1 Ll:1 Lu:1 Ll:1 Lu:1 Ll:1 Lu:1 Ll:1",
  "Lu:1 Ll:1 Lu:1 Ll:1 Lu:1 Ll:1 Lu:1 Ll:1 Lu:1 Ll:1 Lu:1 Ll:1 Lu:1 Ll:1 Lu:1 Ll:1 Lu:1 Ll:1",
  "Lu:1 Ll:1 Lu:1 Ll:1 Lu:1 Ll:1 Lu:1 Ll:1 Lu:1 Ll:1 Lu:1 Ll:1 Lu:1 Ll:1 Lu:1 Ll:1 Lu:1 Ll:1",
  "Lu:1 Ll:1 Lu:1 Ll:9 Lu:8 Ll:6 Cn:2 Lu:6 Cn:2 Ll:8 Lu:8 Ll:8 Lu:8 Ll:6 Cn:2 Lu:6 Cn:2 Ll:8",
  "Cn:1 Lu:1 Cn:1 Lu:1 Cn:1 Lu:1 Cn:1 Lu:1 Ll:8 Lu:8 Ll:E Cn:2 Ll:8 Lt:8 Ll:8 Lt:8 Ll:8 Lt:8",
  "Ll:5 Cn:1 Ll:2 Lu:4 Lt:1 Sk:1 Ll:1 Sk:3 Ll:3 Cn:1 Ll:2 Lu:4 Lt:1 Sk:3 Ll:4 Cn:2 Ll:2 Lu:4",
  "Cn:1 Sk:3 Ll:8 Lu:5 Sk:3 Cn:2 Ll:3 Cn:1 Ll:2 Lu:4 Lt:1 Sk:2 Cn:1 Zs:B Cf:5 Pd:6 Po:2 Pi:1",
  "Pf:1 Ps:1 Pi:2 Pf:1 Ps:1 Pi:1 Po:8 Zl:1 Zp:1 Cf:5 Zs:1 Po:9 Pi:1 Pf:1 Po:4 Pc:2 Po:3 Sm:1",
  "Ps:1 Pe:1 Po:B Sm:1 Po:1 Pc:1 Po:A Zs:1 Cf:5 Cn:1 Cf:A No:1 Lm:1 Cn:2 No:6 Sm:3 Ps:1 Pe:1",
  "Lm:1 No:A Sm:3 Ps:1 Pe:1 Cn:1 Lm:D Cn:3 Sc:21 Cn:F Mn:D Me:4 Mn:1 Me:3 Mn:C Cn:F So:2 Lu:1",
  "So:4 Lu:1 So:2 Ll:1 Lu:3 Ll:2 Lu:3 Ll:1 So:1 Lu:1 So:2 Sm:1 Lu:5 So:6 Lu:1 So:1 Lu:1 So:1",
  "Lu:1 So:1 Lu:4 So:1 Ll:1 Lu:4 Ll:1 Lo:4 Ll:1 So:2 Ll:2 Lu:2 Sm:5 Lu:1 Ll:4 So:1 Sm:1 So:2",
  "Ll:1 So:1 No:10 Nl:23 Lu:1 Ll:1 Nl:4 No:1 So:2 Cn:4 Sm:5 So:5 Sm:2 So:4 Sm:1 So:2 Sm:1 So:2",
  "Sm:1 So:7 Sm:1 So:1F Sm:2 So:2 Sm:1 So:1 Sm:1 So:1F Sm:10C So:8 Ps:1 Pe:1 Ps:1 Pe:1 So:14",
  "Sm:2 So:7 Ps:1 Pe:1 So:51 Sm:1 So:1E Sm:19 So:28 Sm:6 So:48 Cn:16 So:B Cn:15 No:3C So:4E",
  "No:16 So:B7 Sm:1 So:9 Sm:1 So:36 Sm:8 So:6F Sm:1 So:F8 Ps:1 Pe:1 Ps:1 Pe:1 Ps:1 Pe:1 Ps:1",
  "Pe:1 Ps:1 Pe:1 Ps:1 Pe:1 Ps:1 Pe:1 No:1E So:2C Sm:5 Ps:1 Pe:1 Sm:1F Ps:1 Pe:1 Ps:1 Pe:1 Ps:1",
  "Pe:1 Ps:1 Pe:1 Ps:1 Pe:1 Sm:10 So:100 Sm:83 Ps:1 Pe:1 Ps:1 Pe:1 Ps:1 Pe:1 Ps:1 Pe:1 Ps:1",
  "Pe:1 Ps:1 Pe:1 Ps:1 Pe:1 Ps:1 Pe:1 Ps:1 Pe:1 Ps:1 Pe:1 Ps:1 Pe:1 Sm:3F Ps:1 Pe:1 Ps:1 Pe:1",
  "Sm:20 Ps:1 Pe:1 Sm:102 So:30 Sm:15 So:2 Sm:6 So:27 Cn:2 So:20 Cn:1 So:69 Lu:30 Ll:30 Lu:1",
  "Ll:1 Lu:3 Ll:2 Lu:1 Ll:1 Lu:1 Ll:1 Lu:1 Ll:1 Lu:4 Ll:1 Lu:1 Ll:2 Lu:1 Ll:6 Lm:2 Lu:3 Ll:1",
  "Lu:1 Ll:1 Lu:1 Ll:1 Lu:1 Ll:1 Lu:1 Ll:1 Lu:1 Ll:1 Lu:1 Ll:1 Lu:1 Ll:1 Lu:1 Ll:1 Lu:1 Ll:1",
  "Lu:1 Ll:1 Lu:1 Ll:1 Lu:1 Ll:1 Lu:1 Ll:1 Lu:1 Ll:1 Lu:1 Ll:1 Lu:1 Ll:1 Lu:1 Ll:1 Lu:1 Ll:1",
  "Lu:1 Ll:1 Lu:1 Ll:1 Lu:1 Ll:1 Lu:1 Ll:1 Lu:1 Ll:1 Lu:1 Ll:1 Lu:1 Ll:1 Lu:1 Ll:1 Lu:1 Ll:1",
  "Lu:1 Ll:1 Lu:1 Ll:1 Lu:1 Ll:1 Lu:1 Ll:1 Lu:1 Ll:1 Lu:1 Ll:1 Lu:1 Ll:1 Lu:1 Ll:1 Lu:1 Ll:1",
  "Lu:1 Ll:1 Lu:1 Ll:1 Lu:1 Ll:1 Lu:1 Ll:1 Lu:1 Ll:1 Lu:1 Ll:1 Lu:1 Ll:1 Lu:1 Ll:1 Lu:1 Ll:1",
  "Lu:1 Ll:1 Lu:1 Ll:1 Lu:1 Ll:1 Lu:1 Ll:2 So:6 Lu:1 Ll:1 Lu:1 Ll:1 Mn:3 Lu:1 Ll:1 Cn:5 Po:4",
  "No:1 Po:2 Ll:26 Cn:1 Ll:1 Cn:5 Ll:1 Cn:2 Lo:38 Cn:7 Lm:1 Po:1 Cn:E Mn:1 Lo:17 Cn:9 Lo:7 Cn:1",
  "Lo:7 Cn:1 Lo:7 Cn:1 Lo:7 Cn:1 Lo:7 Cn:1 Lo:7 Cn:1 Lo:7 Cn:1 Lo:7 Cn:1 Mn:20 Po:2 Pi:1 Pf:1",
  "Pi:1 Pf:1 Po:3 Pi:1 Pf:1 Po:1 Pi:1 Pf:1 Po:9 Pd:1 Po:2 Pd:1 Po:1 Pi:1 Pf:1 Po:2 Pi:1 Pf:1",
  "Ps:1 Pe:1 Ps:1 Pe:1 Ps:1 Pe:1 Ps:1 Pe:1 Po:5 Lm:1 Po:A Pd:2 Po:4 Pd:1 Po:1 Ps:1 Po:D So:2",
  "Po:3 Ps:1 Pe:1 Ps:1 Pe:1 Ps:1 Pe:1 Ps:1 Pe:1 Pd:1 Cn:22 So:1A Cn:1 So:59 Cn:C So:D6 Cn:1A",
  "So:10 Zs:1 Po:3 So:1 Lm:1 Lo:1 Nl:1 Ps:1 Pe:1 Ps:1 Pe:1 Ps:1 Pe:1 Ps:1 Pe:1 Ps:1 Pe:1 So:2",
  "Ps:1 Pe:1 Ps:1 Pe:1 Ps:1 Pe:1 Ps:1 Pe:1 Pd:1 Ps:1 Pe:2 So:1 Nl:9 Mn:4 Mc:2 Pd:1 Lm:5 So:2",
  "Nl:3 Lm:1 Lo:1 Po:1 So:2 Cn:1 Lo:56 Cn:2 Mn:2 Sk:2 Lm:2 Lo:1 Pd:1 Lo:5A Po:1 Lm:3 Lo:1 Cn:5",
  "Lo:2B Cn:1 Lo:5E Cn:1 So:2 No:4 So:A Lo:20 So:26 Cn:9 So:1 Lo:10 So:1F Cn:1 No:A So:1E No:8",
  "So:1 No:F So:20 No:A So:27 No:F So:140 Lo:19C0 So:40 Lo:5215 Lm:1 Lo:477 Cn:3 So:37 Cn:9",
  "Lo:28 Lm:6 Po:2 Lo:10C Lm:1 Po:3 Lo:10 Nd:A Lo:2 Cn:14 Lu:1 Ll:1 Lu:1 Ll:1 Lu:1 Ll:1 Lu:1",
  "Ll:1 Lu:1 Ll:1 Lu:1 Ll:1 Lu:1 Ll:1 Lu:1 Ll:1 Lu:1 Ll:1 Lu:1 Ll:1 Lu:1 Ll:1 Lu:1 Ll:1 Lu:1",
  "Ll:1 Lu:1 Ll:1 Lu:1 Ll:1 Lu:1 Ll:1 Lu:1 Ll:1 Lu:1 Ll:1 Lu:1 Ll:1 Lu:1 Ll:1 Lu:1 Ll:1 Lu:1",
  "Ll:1 Lu:1 Ll:1 Lo:1 Mn:1 Me:3 Po:1 Mn:A Po:1 Lm:1 Lu:1 Ll:1 Lu:1 Ll:1 Lu:1 Ll:1 Lu:1 Ll:1",
  "Lu:1 Ll:1 Lu:1 Ll:1 Lu:1 Ll:1 Lu:1 Ll:1 Lu:1 Ll:1 Lu:1 Ll:1 Lu:1 Ll:1 Lu:1 Ll:1 Lu:1 Ll:1",
  "Lu:1 Ll:1 Lm:2 Mn:2 Lo:46 Nl:A Mn:2 Po:6 Cn:8 Sk:17 Lm:9 Sk:2 Lu:1 Ll:1 Lu:1 Ll:1 Lu:1 Ll:1",
  "Lu:1 Ll:1 Lu:1 Ll:1 Lu:1 Ll:1 Lu:1 Ll:3 Lu:1 Ll:1 Lu:1 Ll:1 Lu:1 Ll:1 Lu:1 Ll:1 Lu:1 Ll:1",
  "Lu:1 Ll:1 Lu:1 Ll:1 Lu:1 Ll:1 Lu:1 Ll:1 Lu:1 Ll:1 Lu:1 Ll:1 Lu:1 Ll:1 Lu:1 Ll:1 Lu:1 Ll:1",
  "Lu:1 Ll:1 Lu:1 Ll:1 Lu:1 Ll:1 Lu:1 Ll:1 Lu:1 Ll:1 Lu:1 Ll:1 Lu:1 Ll:1 Lu:1 Ll:1 Lu:1 Ll:1",
  "Lu:1 Ll:1 Lu:1 Ll:1 Lu:1 Ll:1 Lu:1 Ll:1 Lu:1 Ll:1 Lu:1 Ll:1 Lu:1 Ll:1 Lu:1 Ll:1 Lm:1 Ll:8",
  "Lu:1 Ll:1 Lu:1 Ll:1 Lu:2 Ll:1 Lu:1 Ll:1 Lu:1 Ll:1 Lu:1 Ll:1 Lu:1 Ll:1 Lm:1 Sk:2 Lu:1 Ll:1",
  "Lu:1 Ll:1 Lo:1 Lu:1 Ll:1 Lu:1 Ll:3 Lu:1 Ll:1 Lu:1 Ll:1 Lu:1 Ll:1 Lu:1 Ll:1 Lu:1 Ll:1 Lu:1",
  "Ll:1 Lu:1 Ll:1 Lu:1 Ll:1 Lu:1 Ll:1 Lu:1 Ll:1 Lu:5 Ll:1 Lu:5 Ll:1 Lu:1 Ll:1 Lu:1 Ll:1 Lu:1",
  "Ll:1 Lu:1 Ll:1 Lu:1 Ll:1 Lu:1 Ll:1 Lu:1 Ll:1 Lu:4 Ll:1 Lu:1 Ll:1 Lu:2 Ll:1 Cn:2 Lu:1 Ll:1",
  "Cn:1 Ll:1 Cn:1 Ll:1 Lu:1 Ll:1 Lu:1 Ll:1 Lu:1 Ll:1 Lu:1 Cn:15 Lm:3 Lu:1 Ll:1 Lo:1 Lm:2 Ll:1",
  "Lo:7 Mn:1 Lo:3 Mn:1 Lo:4 Mn:1 Lo:17 Mc:2 Mn:2 Mc:1 So:4 Mn:1 Cn:3 No:6 So:2 Sc:1 So:1 Cn:6",
  "Lo:34 Po:4 Cn:8 Mc:2 Lo:32 Mc:10 Mn:2 Cn:8 Po:2 Nd:A Cn:6 Mn:12 Lo:6 Po:3 Lo:1 Po:1 Lo:2",
  "Mn:1 Nd:A Lo:1C Mn:8 Po:2 Lo:17 Mn:B Mc:2 Cn:B Po:1 Lo:1D Cn:3 Mn:3 Mc:1 Lo:2F Mn:1 Mc:2",
  "Mn:4 Mc:2 Mn:2 Mc:3 Po:D Cn:1 Lm:1 Nd:A Cn:4 Po:2 Lo:5 Mn:1 Lm:1 Lo:9 Nd:A Lo:5 Cn:1 Lo:29",
  "Mn:6 Mc:2 Mn:2 Mc:2 Mn:2 Cn:9 Lo:3 Mn:1 Lo:8 Mn:1 Mc:1 Cn:2 Nd:A Cn:2 Po:4 Lo:10 Lm:1 Lo:6",
  "So:3 Lo:1 Mc:1 Mn:1 Mc:1 Lo:32 Mn:1 Lo:1 Mn:3 Lo:2 Mn:2 Lo:5 Mn:2 Lo:1 Mn:1 Lo:1 Cn:18 Lo:2",
  "Lm:1 Po:2 Lo:B Mc:1 Mn:2 Mc:2 Po:2 Lo:1 Lm:2 Mc:1 Mn:1 Cn:A Lo:6 Cn:2 Lo:6 Cn:2 Lo:6 Cn:9",
  "Lo:7 Cn:1 Lo:7 Cn:1 Ll:2B Sk:1 Lm:4 Ll:9 Lm:1 Sk:2 Cn:4 Ll:50 Lo:23 Mc:2 Mn:1 Mc:2 Mn:1 Mc:2",
  "Po:1 Mc:1 Mn:1 Cn:2 Nd:A Cn:6 Lo:2BA4 Cn:C Lo:17 Cn:4 Lo:31 Cn:4 Cs:800 Co:1900 Lo:16E Cn:2",
  "Lo:6A Cn:26 Ll:7 Cn:C Ll:5 Cn:5 Lo:1 Mn:1 Lo:A Sm:1 Lo:D Cn:1 Lo:5 Cn:1 Lo:1 Cn:1 Lo:2 Cn:1",
  "Lo:2 Cn:1 Lo:6C Sk:11 Cn:10 Lo:16B Pe:1 Ps:1 So:10 Lo:40 Cn:2 Lo:36 Cn:7 So:1 Cn:20 Lo:C",
  "Sc:1 So:3 Mn:10 Po:7 Ps:1 Pe:1 Po:1 Cn:6 Mn:10 Po:1 Pd:2 Pc:2 Ps:1 Pe:1 Ps:1 Pe:1 Ps:1 Pe:1",
  "Ps:1 Pe:1 Ps:1 Pe:1 Ps:1 Pe:1 Ps:1 Pe:1 Ps:1 Pe:1 Po:2 Ps:1 Pe:1 Po:4 Pc:3 Po:3 Cn:1 Po:4",
  "Pd:1 Ps:1 Pe:1 Ps:1 Pe:1 Ps:1 Pe:1 Po:3 Sm:1 Pd:1 Sm:3 Cn:1 Po:1 Sc:1 Po:2 Cn:4 Lo:5 Cn:1",
  "Lo:87 Cn:2 Cf:1 Cn:1 Po:3 Sc:1 Po:3 Ps:1 Pe:1 Po:1 Sm:1 Po:1 Pd:1 Po:2 Nd:A Po:2 Sm:3 Po:2",
  "Lu:1A Ps:1 Po:1 Pe:1 Sk:1 Pc:1 Sk:1 Ll:1A Ps:1 Sm:1 Pe:1 Sm:1 Ps:1 Pe:1 Po:1 Ps:1 Pe:1 Po:2",
  "Lo:A Lm:1 Lo:2D Lm:2 Lo:1F Cn:3 Lo:6 Cn:2 Lo:6 Cn:2 Lo:6 Cn:2 Lo:3 Cn:3 Sc:2 Sm:1 Sk:1 So:1",
  "Sc:2 Cn:1 So:1 Sm:4 So:2 Cn:A Cf:3 So:2 Cn:2 Lo:C Cn:1 Lo:1A Cn:1 Lo:13 Cn:1 Lo:2 Cn:1 Lo:F",
  "Cn:2 Lo:E Cn:22 Lo:7B Cn:5 Po:3 Cn:4 No:2D Cn:3 So:9 Nl:35 No:4 So:11 No:2 So:3 Cn:1 So:D",
  "Cn:3 So:1 Cn:2F So:2D Mn:1 Cn:82 Lo:1D Cn:3 Lo:31 Cn:F Mn:1 No:1B Cn:4 Lo:20 No:4 Cn:9 Lo:14",
  "Nl:1 Lo:8 Nl:1 Cn:5 Lo:26 Mn:5 Cn:5 Lo:1E Cn:1 Po:1 Lo:24 Cn:4 Lo:8 Po:1 Nl:5 Cn:2A Lu:28",
  "Ll:28 Lo:4E Cn:2 Nd:A Cn:6 Lu:24 Cn:4 Ll:24 Cn:4 Lo:28 Cn:8 Lo:34 Cn:B Po:1 Lu:B Cn:1 Lu:F",
  "Cn:1 Lu:7 Cn:1 Lu:2 Cn:1 Ll:B Cn:1 Ll:F Cn:1 Ll:7 Cn:1 Ll:2 Cn:3 Lo:34 Cn:C Lo:137 Cn:9",
  "Lo:16 Cn:A Lo:8 Cn:18 Lm:6 Cn:1 Lm:2A Cn:1 Lm:9 Cn:45 Lo:6 Cn:2 Lo:1 Cn:1 Lo:2C Cn:1 Lo:2",
  "Cn:3 Lo:1 Cn:2 Lo:17 Cn:1 Po:1 No:8 Lo:17 So:2 No:7 Lo:1F Cn:8 No:9 Cn:30 Lo:13 Cn:1 Lo:2",
  "Cn:5 No:5 Lo:16 No:6 Cn:3 Po:1 Lo:1A Cn:5 Po:1 Cn:40 Lo:38 Cn:4 No:2 Lo:2 No:10 Cn:2 No:2E",
  "Lo:1 Mn:3 Cn:1 Mn:2 Cn:5 Mn:4 Lo:4 Cn:1 Lo:3 Cn:1 Lo:1D Cn:2 Mn:3 Cn:4 Mn:1 No:9 Cn:7 Po:9",
  "Cn:7 Lo:1D No:2 Po:1 Lo:1D No:3 Cn:20 Lo:8 So:1 Lo:1C Mn:2 Cn:4 No:5 Po:7 Cn:9 Lo:36 Cn:3",
  "Po:7 Lo:16 Cn:2 No:8 Lo:13 Cn:5 No:8 Lo:12 Cn:7 Po:4 Cn:C No:7 Cn:50 Lo:49 Cn:37 Lu:33 Cn:D",
  "Ll:33 Cn:7 No:6 Lo:24 Mn:4 Cn:8 Nd:A Cn:6 Nd:A Lo:4 Lm:1 Lo:1 Lu:16 Cn:3 Mn:5 Pd:1 Lm:1",
  "Ll:16 Cn:8 Sm:2 Cn:D0 No:1F Cn:1 Lo:2A Cn:1 Mn:2 Pd:1 Cn:2 Lo:2 Cn:10 Lo:3 Cn:37 Mn:4 Lo:1D",
  "No:A Lo:1 Cn:8 Lo:16 Mn:B No:4 Po:5 Cn:16 Lo:12 Mn:4 Po:4 Cn:26 Lo:15 No:7 Cn:14 Lo:17 Cn:9",
  "Mc:1 Mn:1 Mc:1 Lo:35 Mn:F Po:7 Cn:4 No:14 Nd:A Mn:1 Lo:2 Mn:2 Lo:1 Cn:9 Mn:3 Mc:1 Lo:2D Mc:3",
  "Mn:4 Mc:2 Mn:2 Po:2 Cf:1 Po:4 Mn:1 Cn:A Cf:1 Cn:2 Lo:19 Cn:7 Nd:A Cn:6 Mn:3 Lo:24 Mn:5 Mc:1",
  "Mn:8 Cn:1 Nd:A Po:4 Lo:1 Mc:2 Lo:1 Cn:8 Lo:23 Mn:1 Po:2 Lo:1 Cn:9 Mn:2 Mc:1 Lo:30 Mc:3 Mn:9",
  "Mc:2 Lo:4 Po:4 Mn:4 Po:1 Mc:1 Mn:1 Nd:A Lo:1 Po:1 Lo:1 Po:3 Cn:1 No:14 Cn:B Lo:12 Cn:1 Lo:19",
  "Mc:3 Mn:3 Mc:2 Mn:1 Mc:1 Mn:2 Po:6 Mn:1 Lo:2 Mn:1 Cn:3E Lo:7 Cn:1 Lo:1 Cn:1 Lo:4 Cn:1 Lo:F",
  "Cn:1 Lo:A Po:1 Cn:6 Lo:2F Mn:1 Mc:3 Mn:8 Cn:5 Nd:A Cn:6 Mn:2 Mc:2 Cn:1 Lo:8 Cn:2 Lo:2 Cn:2",
  "Lo:16 Cn:1 Lo:7 Cn:1 Lo:2 Cn:1 Lo:5 Cn:1 Mn:2 Lo:1 Mc:2 Mn:1 Mc:4 Cn:2 Mc:2 Cn:2 Mc:3 Cn:2",
  "Lo:1 Cn:6 Mc:1 Cn:5 Lo:5 Mc:2 Cn:2 Mn:7 Cn:3 Mn:5 Cn:B Lo:A Cn:1 Lo:1 Cn:2 Lo:1 Cn:1 Lo:26",
  "Cn:1 Lo:1 Mc:3 Mn:6 Cn:1 Mc:1 Cn:2 Mc:1 Cn:1 Mc:4 Cn:1 Mc:2 Mn:1 Mc:1 Mn:1 Lo:1 Mn:1 Lo:1",
  "Po:2 Cn:1 Po:2 Cn:8 Mn:2 Cn:1D Lo:35 Mc:3 Mn:8 Mc:2 Mn:3 Mc:1 Mn:1 Lo:4 Po:5 Nd:A Po:2 Cn:1",
  "Po:1 Mn:1 Lo:3 Cn:1E Lo:30 Mc:3 Mn:6 Mc:1 Mn:1 Mc:4 Mn:2 Mc:1 Mn:2 Lo:2 Po:1 Lo:1 Cn:8 Nd:A",
  "Cn:A6 Lo:2F Mc:3 Mn:4 Cn:2 Mc:4 Mn:2 Mc:1 Mn:2 Po:17 Lo:4 Mn:2 Cn:22 Lo:30 Mc:3 Mn:8 Mc:2",
  "Mn:1 Mc:1 Mn:2 Po:3 Lo:1 Cn:B Nd:A Cn:6 Po:D Cn:13 Lo:2B Mn:1 Mc:1 Mn:1 Mc:2 Mn:6 Mc:1 Mn:1",
  "Lo:1 Po:1 Cn:6 Nd:A Cn:6 Nd:14 Cn:1C Lo:1B Cn:2 Mn:1 Mc:1 Mn:1 Mc:2 Mn:4 Mc:1 Mn:5 Cn:4 Nd:A",
  "No:2 Po:3 So:1 Lo:7 Cn:B9 Lo:2C Mc:3 Mn:9 Mc:1 Mn:2 Po:1 Cn:64 Lu:20 Ll:20 Nd:A No:9 Cn:C",
  "Lo:8 Cn:2 Lo:1 Cn:2 Lo:8 Cn:1 Lo:2 Cn:1 Lo:18 Mc:6 Cn:1 Mc:2 Cn:2 Mn:2 Mc:1 Mn:1 Lo:1 Mc:1",
  "Lo:1 Mc:1 Mn:1 Po:3 Cn:9 Nd:A Cn:46 Lo:8 Cn:2 Lo:27 Mc:3 Mn:4 Cn:2 Mn:2 Mc:4 Mn:1 Lo:1 Po:1",
  "Lo:1 Mc:1 Cn:1B Lo:1 Mn:A Lo:28 Mn:6 Mc:1 Lo:1 Mn:4 Po:8 Mn:1 Cn:8 Lo:1 Mn:6 Mc:2 Mn:3 Lo:2E",
  "Mn:D Mc:1 Mn:2 Po:3 Lo:1 Po:5 Cn:D Lo:49 Cn:7 Po:A Cn:B6 Lo:21 Po:1 Cn:E Nd:A Cn:6 Lo:9 Cn:1",
  "Lo:25 Mc:1 Mn:7 Cn:1 Mn:6 Mc:1 Mn:1 Lo:1 Po:5 Cn:A Nd:A No:13 Cn:3 Po:2 Lo:1E Cn:2 Mn:16",
  "Cn:1 Mc:1 Mn:7 Mc:1 Mn:2 Mc:1 Mn:2 Cn:49 Lo:7 Cn:1 Lo:2 Cn:1 Lo:26 Mn:6 Cn:3 Mn:1 Cn:1 Mn:2",
  "Cn:1 Mn:7 Lo:1 Mn:1 Cn:8 Nd:A Cn:6 Lo:6 Cn:1 Lo:2 Cn:1 Lo:20 Mc:5 Cn:1 Mn:2 Cn:1 Mc:2 Mn:1",
  "Mc:1 Mn:1 Lo:1 Cn:7 Nd:A Cn:136 Lo:13 Mn:2 Mc:2 Po:2 Cn:7 Mn:2 Lo:1 Mc:1 Lo:D Cn:1 Lo:22",
  "Mc:2 Mn:5 Cn:3 Mc:2 Mn:1 Mc:1 Mn:1 Po:D Nd:A Mn:1 Cn:55 Lo:1 Cn:F No:15 So:8 Sc:4 So:11 Cn:D",
  "Po:1 Lo:39A Cn:66 Nl:6F Cn:1 Po:5 Cn:B Lo:C4 Cn:A4C Lo:61 Po:2 Cn:D Lo:430 Cf:10 Mn:1 Lo:6",
  "Mn:F Cn:A Lo:F9B Cn:5 Lo:247 Cn:1AB9 Lo:1E Mn:C Mc:3 Mn:3 Nd:A Cn:6C6 Lo:239 Cn:7 Lo:1F Cn:1",
  "Nd:A Cn:4 Po:2 Lo:4F Cn:1 Nd:A Cn:6 Lo:1E Cn:2 Mn:5 Po:1 Cn:A Lo:30 Mn:7 Po:5 So:4 Lm:4 Po:1",
  "So:1 Cn:A Nd:A Cn:1 No:7 Cn:1 Lo:15 Cn:5 Lo:13 Cn:1B0 Lm:3 Lo:28 Lm:2 Po:3 Nd:A Cn:C6 Lu:20",
  "Ll:20 No:17 Po:4 Cn:65 Lo:4B Cn:4 Mn:1 Lo:1 Mc:37 Cn:7 Mn:4 Lm:D Cn:40 Lm:2 Po:1 Lm:1 Mn:1",
  "Cn:B Mc:2 Cn:E Lo:17F8 Cn:8 Lo:4D6 Cn:29 Lo:A Cn:22E7 Lm:4 Cn:1 Lm:7 Cn:1 Lm:2 Cn:1 Lo:123",
  "Cn:F Lo:1 Cn:1D Lo:3 Cn:2 Lo:1 Cn:E Lo:4 Cn:8 Lo:18C Cn:904 Lo:6B Cn:5 Lo:D Cn:3 Lo:9 Cn:7",
  "Lo:A Cn:2 So:1 Mn:2 Po:1 Cf:4 Cn:F5C So:F0 Nd:A Cn:6 So:1B4 Cn:4C Mn:2E Cn:2 Mn:17 Cn:9",
  "So:74 Cn:3C So:F6 Cn:A So:27 Cn:2 So:3C Mc:2 Mn:3 So:3 Mc:6 Cf:8 Mn:8 So:2 Mn:7 So:1E Mn:4",
  "So:3D Cn:15 So:42 Mn:3 So:1 Cn:7A No:14 Cn:C No:14 Cn:C So:57 Cn:9 No:19 Cn:87 Lu:1A Ll:1A",
  "Lu:1A Ll:7 Cn:1 Ll:12 Lu:1A Ll:1A Lu:1 Cn:1 Lu:2 Cn:2 Lu:1 Cn:2 Lu:2 Cn:2 Lu:4 Cn:1 Lu:8",
  "Ll:4 Cn:1 Ll:1 Cn:1 Ll:7 Cn:1 Ll:B Lu:1A Ll:1A Lu:2 Cn:1 Lu:4 Cn:2 Lu:8 Cn:1 Lu:7 Cn:1 Ll:1A",
  "Lu:2 Cn:1 Lu:4 Cn:1 Lu:5 Cn:1 Lu:1 Cn:3 Lu:7 Cn:1 Ll:1A Lu:1A Ll:1A Lu:1A Ll:1A Lu:1A Ll:1A",
  "Lu:1A Ll:1A Lu:1A Ll:1A Lu:1A Ll:1C Cn:2 Lu:19 Sm:1 Ll:19 Sm:1 Ll:6 Lu:19 Sm:1 Ll:19 Sm:1",
  "Ll:6 Lu:19 Sm:1 Ll:19 Sm:1 Ll:6 Lu:19 Sm:1 Ll:19 Sm:1 Ll:6 Lu:19 Sm:1 Ll:19 Sm:1 Ll:6 Lu:1",
  "Ll:1 Cn:2 Nd:32 So:200 Mn:37 So:4 Mn:32 So:8 Mn:1 So:E Mn:1 So:2 Po:5 Cn:F Mn:5 Cn:1 Mn:F",
  "Cn:450 Ll:A Lo:1 Ll:14 Cn:6 Ll:6 Cn:D5 Mn:7 Cn:1 Mn:11 Cn:2 Mn:7 Cn:1 Mn:2 Cn:1 Mn:5 Cn:5",
  "Lm:3E Cn:21 Mn:1 Cn:70 Lo:2D Cn:3 Mn:7 Lm:7 Cn:2 Nd:A Cn:4 Lo:1 So:1 Cn:140 Lo:1E Mn:1 Cn:11",
  "Lo:2C Mn:4 Nd:A Cn:5 Sc:1 Cn:1D0 Lo:1B Lm:1 Mn:4 Nd:A Cn:D6 Lo:1E Mn:2 Lo:1 Nd:A Cn:4 Po:1",
  "Cn:1E0 Lo:7 Cn:1 Lo:4 Cn:1 Lo:2 Cn:1 Lo:F Cn:1 Lo:C5 Cn:2 No:9 Mn:7 Cn:29 Lu:22 Ll:22 Mn:7",
  "Lm:1 Cn:4 Nd:A Cn:4 Po:2 Cn:311 No:3B So:1 No:3 Sc:1 No:4 Cn:4C No:2D So:1 No:F Cn:C2 Lo:4",
  "Cn:1 Lo:1B Cn:1 Lo:2 Cn:1 Lo:1 Cn:2 Lo:1 Cn:1 Lo:A Cn:1 Lo:4 Cn:1 Lo:1 Cn:1 Lo:1 Cn:6 Lo:1",
  "Cn:4 Lo:1 Cn:1 Lo:1 Cn:1 Lo:1 Cn:1 Lo:3 Cn:1 Lo:2 Cn:1 Lo:1 Cn:2 Lo:1 Cn:1 Lo:1 Cn:1 Lo:1",
  "Cn:1 Lo:1 Cn:1 Lo:1 Cn:1 Lo:2 Cn:1 Lo:1 Cn:2 Lo:4 Cn:1 Lo:7 Cn:1 Lo:4 Cn:1 Lo:4 Cn:1 Lo:1",
  "Cn:1 Lo:A Cn:1 Lo:11 Cn:5 Lo:3 Cn:1 Lo:5 Cn:1 Lo:11 Cn:34 Sm:2 Cn:10E So:2C Cn:4 So:64 Cn:C",
  "So:F Cn:2 So:F Cn:1 So:F Cn:1 So:25 Cn:A No:D So:A1 Cn:38 So:1D Cn:D So:2C Cn:4 So:9 Cn:7",
  "So:2 Cn:E So:6 Cn:9A So:FB Sk:5 So:2D8 Cn:4 So:11 Cn:3 So:D Cn:3 So:77 Cn:4 So:5F Cn:6 So:C",
  "Cn:4 So:1 Cn:F So:C Cn:4 So:38 Cn:8 So:A Cn:6 So:28 Cn:8 So:1E Cn:2 So:C Cn:4 So:2 Cn:3E",
  "So:154 Cn:C So:E Cn:2 So:D Cn:3 So:A Cn:5 So:38 Cn:7 So:F Cn:2 So:B Cn:6 So:9 Cn:7 So:93",
  "Cn:1 So:5C Nd:A Cn:406 Lo:A6E0 Cn:20 Lo:103A Cn:6 Lo:DE Cn:2 Lo:1682 Cn:E Lo:1D31 Cn:F",
  "Lo:26E Cn:9A2 Lo:21E Cn:5E2 Lo:134B Cn:5 Lo:1060 Cn:ADC51 Cf:1 Cn:1E Cf:60 Cn:80 Mn:F0",
  "Cn:FE10 Co:FFFE Cn:2 Co:FFFE Cn:2"]

end SelectorGuard.Unicode
