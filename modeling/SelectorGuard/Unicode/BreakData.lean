/-!
# Runs of the text segmentation properties

The code space is cut into maximal runs of equal Grapheme_Cluster_Break, Word_Break and
Sentence_Break. An entry "LVT:1B" stands for 0x1B code points with the value LVT, and the label XX
marks code points without a value of their own.
-/

namespace SelectorGuard.Unicode

/-- Grapheme_Cluster_Break of every code point, as runs in code point order. -/
def graphemeBreakRuns : List String := [
  "CN:A LF:1 CN:2 CR:1 CN:12 XX:5F CN:21 XX:D CN:1 XX:252 EX:70 XX:113 EX:7 XX:107 EX:2D XX:1",
  "EX:1 XX:1 EX:2 XX:1 EX:2 XX:1 EX:1 XX:38 PP:6 XX:A EX:B XX:1 CN:1 XX:2E EX:15 XX:10 EX:1",
  "XX:65 EX:7 PP:1 XX:1 EX:6 XX:2 EX:2 XX:1 EX:4 XX:21 PP:1 XX:1 EX:1 XX:1E EX:1B XX:5B EX:B",
  "XX:3A EX:9 XX:9 EX:1 XX:18 EX:4 XX:1 EX:9 XX:1 EX:3 XX:1 EX:5 XX:2B EX:3 XX:34 PP:2 XX:5",
  "EX:9 XX:2A EX:18 PP:1 EX:20 SM:1 XX:36 EX:1 SM:1 EX:1 XX:1 SM:3 EX:8 SM:4 EX:1 SM:2 XX:1",
  "EX:7 XX:A EX:2 XX:1D EX:1 SM:2 XX:38 EX:1 XX:1 EX:1 SM:2 EX:4 XX:2 SM:2 XX:2 SM:2 EX:1 XX:9",
  "EX:1 XX:A EX:2 XX:1A EX:1 XX:2 EX:2 SM:1 XX:38 EX:1 XX:1 SM:3 EX:2 XX:4 EX:2 XX:2 EX:3 XX:3",
  "EX:1 XX:1E EX:2 XX:3 EX:1 XX:B EX:2 SM:1 XX:38 EX:1 XX:1 SM:3 EX:5 XX:1 EX:2 SM:1 XX:1 SM:2",
  "EX:1 XX:14 EX:2 XX:16 EX:6 XX:1 EX:1 SM:2 XX:38 EX:1 XX:1 EX:2 SM:1 EX:4 XX:2 SM:2 XX:2 SM:2",
  "EX:1 XX:7 EX:3 XX:A EX:2 XX:1E EX:1 XX:3B EX:1 SM:1 EX:1 SM:2 XX:3 SM:3 XX:1 SM:3 EX:1 XX:9",
  "EX:1 XX:28 EX:1 SM:3 EX:1 XX:37 EX:1 XX:1 EX:3 SM:4 XX:1 EX:3 XX:1 EX:4 XX:7 EX:2 XX:B EX:2",
  "XX:1D EX:1 SM:2 XX:38 EX:1 XX:1 SM:1 EX:2 SM:1 EX:1 SM:2 XX:1 EX:3 XX:1 EX:4 XX:7 EX:2 XX:B",
  "EX:2 XX:F SM:1 XX:C EX:2 SM:2 XX:37 EX:2 XX:1 EX:1 SM:2 EX:4 XX:1 SM:3 XX:1 SM:3 EX:1 PP:1",
  "XX:8 EX:1 XX:A EX:2 XX:1D EX:1 SM:2 XX:46 EX:1 XX:4 EX:1 SM:2 EX:3 XX:1 EX:1 XX:1 SM:7 EX:1",
  "XX:12 SM:2 XX:3D EX:1 XX:1 SM:1 EX:7 XX:C EX:8 XX:62 EX:1 XX:1 SM:1 EX:9 XX:B EX:7 XX:49",
  "EX:2 XX:1B EX:1 XX:1 EX:1 XX:1 EX:1 XX:4 SM:2 XX:31 EX:E SM:1 EX:5 XX:1 EX:2 XX:5 EX:B XX:1",
  "EX:24 XX:9 EX:1 XX:66 EX:4 SM:1 EX:6 XX:1 EX:2 SM:2 EX:2 XX:17 SM:2 EX:2 XX:4 EX:3 XX:10",
  "EX:4 XX:D EX:1 XX:1 SM:1 EX:2 XX:6 EX:1 XX:F EX:1 XX:62 L:60 V:48 T:58 XX:15D EX:3 XX:3B2",
  "EX:4 XX:1C EX:3 XX:1D EX:2 XX:1E EX:2 XX:40 EX:2 SM:1 EX:7 SM:8 EX:1 SM:2 EX:B XX:9 EX:1",
  "XX:2D EX:3 CN:1 EX:1 XX:75 EX:2 XX:22 EX:1 XX:76 EX:3 SM:4 EX:2 SM:3 XX:4 SM:2 EX:1 SM:6",
  "EX:3 XX:DB EX:2 SM:2 EX:1 XX:39 SM:1 EX:1 SM:1 EX:7 XX:1 EX:1 XX:1 EX:1 XX:2 EX:8 SM:6 EX:A",
  "XX:2 EX:1 XX:30 EX:1F XX:31 EX:4 SM:1 XX:2F EX:A SM:4 EX:3 XX:26 EX:9 XX:C EX:2 SM:1 XX:1E",
  "SM:1 EX:4 SM:2 EX:6 XX:38 EX:1 SM:1 EX:2 SM:3 EX:1 SM:1 EX:5 XX:30 SM:8 EX:8 SM:2 EX:2 XX:98",
  "EX:3 XX:1 EX:D SM:1 EX:7 XX:4 EX:1 XX:6 EX:1 XX:2 SM:1 EX:2 XX:C6 EX:40 XX:20B CN:1 EX:1",
  "ZWJ:1 CN:2 XX:18 CN:7 XX:31 CN:10 XX:60 EX:21 XX:BFE EX:3 XX:8D EX:1 XX:60 EX:20 XX:22A EX:6",
  "XX:69 EX:2 XX:75D4 EX:4 XX:1 EX:A XX:20 EX:2 XX:50 EX:2 XX:110 EX:1 XX:3 EX:1 XX:4 EX:1",
  "XX:17 SM:2 EX:2 SM:1 XX:4 EX:1 XX:53 SM:2 XX:32 SM:10 EX:2 XX:1A EX:12 XX:D EX:1 XX:26 EX:8",
  "XX:19 EX:B SM:1 EX:1 XX:C L:1D XX:3 EX:3 SM:1 XX:2F EX:1 SM:2 EX:4 SM:2 EX:2 SM:2 EX:1 XX:24",
  "EX:1 XX:43 EX:6 SM:2 EX:2 SM:2 EX:2 XX:C EX:1 XX:8 EX:1 SM:1 XX:2E EX:1 XX:33 EX:1 XX:1 EX:3",
  "XX:2 EX:2 XX:5 EX:2 XX:1 EX:1 XX:29 SM:1 EX:2 SM:2 XX:5 SM:1 EX:1 XX:EC SM:2 EX:1 SM:2 EX:1",
  "SM:2 XX:1 SM:1 EX:1 XX:12 LV:1 LVT:1B LV:1 LVT:1B LV:1 LVT:1B LV:1 LVT:1B LV:1 LVT:1B LV:1",
  "LVT:1B LV:1 LVT:1B LV:1 LVT:1B LV:1 LVT:1B LV:1 LVT:1B LV:1 LVT:1B LV:1 LVT:1B LV:1 LVT:1B",
  "LV:1 LVT:1B LV:1 LVT:1B LV:1 LVT:1B LV:1 LVT:1B LV:1 LVT:1B LV:1 LVT:1B LV:1 LVT:1B LV:1",
  "LVT:1B LV:1 LVT:1B LV:1 LVT:1B LV:1 LVT:1B LV:1 LVT:1B LV:1 LVT:1B LV:1 LVT:1B LV:1 LVT:1B",
  "LV:1 LVT:1B LV:1 LVT:1B LV:1 LVT:1B LV:1 LVT:1B LV:1 LVT:1B LV:1 LVT:1B LV:1 LVT:1B LV:1",
  "LVT:1B LV:1 LVT:1B LV:1 LVT:1B LV:1 LVT:1B LV:1 LVT:1B LV:1 LVT:1B LV:1 LVT:1B LV:1 LVT:1B",
  "LV:1 LVT:1B LV:1 LVT:1B LV:1 LVT:1B LV:1 LVT:1B LV:1 LVT:1B LV:1 LVT:1B LV:1 LVT:1B LV:1",
  "LVT:1B LV:1 LVT:1B LV:1 LVT:1B LV:1 LVT:1B LV:1 LVT:1B LV:1 LVT:1B LV:1 LVT:1B LV:1 LVT:1B",
  "LV:1 LVT:1B LV:1 LVT:1B LV:1 LVT:1B LV:1 LVT:1B LV:1 LVT:1B LV:1 LVT:1B LV:1 LVT:1B LV:1",
  "LVT:1B LV:1 LVT:1B LV:1 LVT:1B LV:1 LVT:1B LV:1 LVT:1B LV:1 LVT:1B LV:1 LVT:1B LV:1 LVT:1B",
  "LV:1 LVT:1B LV:1 LVT:1B LV:1 LVT:1B LV:1 LVT:1B LV:1 LVT:1B LV:1 LVT:1B LV:1 LVT:1B LV:1",
  "LVT:1B LV:1 LVT:1B LV:1 LVT:1B LV:1 LVT:1B LV:1 LVT:1B LV:1 LVT:1B LV:1 LVT:1B LV:1 LVT:1B",
  "LV:1 LVT:1B LV:1 LVT:1B LV:1 LVT:1B LV:1 LVT:1B LV:1 LVT:1B LV:1 LVT:1B LV:1 LVT:1B LV:1",
  "LVT:1B LV:1 LVT:1B LV:1 LVT:1B LV:1 LVT:1B LV:1 LVT:1B LV:1 LVT:1B LV:1 LVT:1B LV:1 LVT:1B",
  "LV:1 LVT:1B LV:1 LVT:1B LV:1 LVT:1B LV:1 LVT:1B LV:1 LVT:1B LV:1 LVT:1B LV:1 LVT:1B LV:1",
  "LVT:1B LV:1 LVT:1B LV:1 LVT:1B LV:1 LVT:1B LV:1 LVT:1B LV:1 LVT:1B LV:1 LVT:1B LV:1 LVT:1B",
  "LV:1 LVT:1B LV:1 LVT:1B LV:1 LVT:1B LV:1 LVT:1B LV:1 LVT:1B LV:1 LVT:1B LV:1 LVT:1B LV:1",
  "LVT:1B LV:1 LVT:1B LV:1 LVT:1B LV:1 LVT:1B LV:1 LVT:1B LV:1 LVT:1B LV:1 LVT:1B LV:1 LVT:1B",
  "LV:1 LVT:1B LV:1 LVT:1B LV:1 LVT:1B LV:1 LVT:1B LV:1 LVT:1B LV:1 LVT:1B LV:1 LVT:1B LV:1",
  "LVT:1B LV:1 LVT:1B LV:1 LVT:1B LV:1 LVT:1B LV:1 LVT:1B LV:1 LVT:1B LV:1 LVT:1B LV:1 LVT:1B",
  "LV:1 LVT:1B LV:1 LVT:1B LV:1 LVT:1B LV:1 LVT:1B LV:1 LVT:1B LV:1 LVT:1B LV:1 LVT:1B LV:1",
  "LVT:1B LV:1 LVT:1B LV:1 LVT:1B LV:1 LVT:1B LV:1 LVT:1B LV:1 LVT:1B LV:1 LVT:1B LV:1 LVT:1B",
  "LV:1 LVT:1B LV:1 LVT:1B LV:1 LVT:1B LV:1 LVT:1B LV:1 LVT:1B LV:1 LVT:1B LV:1 LVT:1B LV:1",
  "LVT:1B LV:1 LVT:1B LV:1 LVT:1B LV:1 LVT:1B LV:1 LVT:1B LV:1 LVT:1B LV:1 LVT:1B LV:1 LVT:1B",
  "LV:1 LVT:1B LV:1 LVT:1B LV:1 LVT:1B LV:1 LVT:1B LV:1 LVT:1B LV:1 LVT:1B LV:1 LVT:1B LV:1",
  "LVT:1B LV:1 LVT:1B LV:1 LVT:1B LV:1 LVT:1B LV:1 LVT:1B LV:1 LVT:1B LV:1 LVT:1B LV:1 LVT:1B",
  "LV:1 LVT:1B LV:1 LVT:1B LV:1 LVT:1B LV:1 LVT:1B LV:1 LVT:1B LV:1 LVT:1B LV:1 LVT:1B LV:1",
  "LVT:1B LV:1 LVT:1B LV:1 LVT:1B LV:1 LVT:1B LV:1 LVT:1B LV:1 LVT:1B LV:1 LVT:1B LV:1 LVT:1B",
  "LV:1 LVT:1B LV:1 LVT:1B LV:1 LVT:1B LV:1 LVT:1B LV:1 LVT:1B LV:1 LVT:1B LV:1 LVT:1B LV:1",
  "LVT:1B LV:1 LVT:1B LV:1 LVT:1B LV:1 LVT:1B LV:1 LVT:1B LV:1 LVT:1B LV:1 LVT:1B LV:1 LVT:1B",
  "LV:1 LVT:1B LV:1 LVT:1B LV:1 LVT:1B LV:1 LVT:1B LV:1 LVT:1B LV:1 LVT:1B LV:1 LVT:1B LV:1",
  "LVT:1B LV:1 LVT:1B LV:1 LVT:1B LV:1 LVT:1B LV:1 LVT:1B LV:1 LVT:1B LV:1 LVT:1B LV:1 LVT:1B",
  "LV:1 LVT:1B LV:1 LVT:1B LV:1 LVT:1B LV:1 LVT:1B LV:1 LVT:1B LV:1 LVT:1B LV:1 LVT:1B LV:1",
  "LVT:1B LV:1 LVT:1B LV:1 LVT:1B LV:1 LVT:1B LV:1 LVT:1B LV:1 LVT:1B LV:1 LVT:1B LV:1 LVT:1B",
  "LV:1 LVT:1B LV:1 LVT:1B LV:1 LVT:1B LV:1 LVT:1B LV:1 LVT:1B LV:1 LVT:1B LV:1 LVT:1B LV:1",
  "LVT:1B LV:1 LVT:1B LV:1 LVT:1B LV:1 LVT:1B LV:1 LVT:1B LV:1 LVT:1B LV:1 LVT:1B LV:1 LVT:1B",
  "LV:1 LVT:1B LV:1 LVT:1B LV:1 LVT:1B LV:1 LVT:1B LV:1 LVT:1B LV:1 LVT:1B LV:1 LVT:1B LV:1",
  "LVT:1B LV:1 LVT:1B LV:1 LVT:1B LV:1 LVT:1B LV:1 LVT:1B LV:1 LVT:1B LV:1 LVT:1B LV:1 LVT:1B",
  "LV:1 LVT:1B LV:1 LVT:1B LV:1 LVT:1B LV:1 LVT:1B LV:1 LVT:1B LV:1 LVT:1B LV:1 LVT:1B LV:1",
  "LVT:1B LV:1 LVT:1B LV:1 LVT:1B LV:1 LVT:1B LV:1 LVT:1B LV:1 LVT:1B LV:1 LVT:1B LV:1 LVT:1B",
  "LV:1 LVT:1B LV:1 LVT:1B LV:1 LVT:1B LV:1 LVT:1B LV:1 LVT:1B LV:1 LVT:1B LV:1 LVT:1B LV:1",
  "LVT:1B LV:1 LVT:1B LV:1 LVT:1B LV:1 LVT:1B LV:1 LVT:1B LV:1 LVT:1B LV:1 LVT:1B LV:1 LVT:1B",
  "LV:1 LVT:1B LV:1 LVT:1B LV:1 LVT:1B LV:1 LVT:1B LV:1 LVT:1B LV:1 LVT:1B LV:1 LVT:1B LV:1",
  "LVT:1B LV:1 LVT:1B LV:1 LVT:1B LV:1 LVT:1B LV:1 LVT:1B LV:1 LVT:1B LV:1 LVT:1B LV:1 LVT:1B",
  "LV:1 LVT:1B LV:1 LVT:1B LV:1 LVT:1B LV:1 LVT:1B LV:1 LVT:1B LV:1 LVT:1B LV:1 LVT:1B LV:1",
  "LVT:1B LV:1 LVT:1B LV:1 LVT:1B LV:1 LVT:1B LV:1 LVT:1B LV:1 LVT:1B LV:1 LVT:1B LV:1 LVT:1B",
  "LV:1 LVT:1B LV:1 LVT:1B LV:1 LVT:1B LV:1 LVT:1B LV:1 LVT:1B LV:1 LVT:1B LV:1 LVT:1B LV:1",
  "LVT:1B LV:1 LVT:1B LV:1 LVT:1B LV:1 LVT:1B LV:1 LVT:1B LV:1 LVT:1B LV:1 LVT:1B LV:1 LVT:1B",
  "LV:1 LVT:1B LV:1 LVT:1B LV:1 LVT:1B LV:1 LVT:1B LV:1 LVT:1B LV:1 LVT:1B LV:1 LVT:1B LV:1",
  "LVT:1B LV:1 LVT:1B LV:1 LVT:1B LV:1 LVT:1B LV:1 LVT:1B LV:1 LVT:1B LV:1 LVT:1B LV:1 LVT:1B",
  "LV:1 LVT:1B LV:1 LVT:1B LV:1 LVT:1B LV:1 LVT:1B LV:1 LVT:1B LV:1 LVT:1B LV:1 LVT:1B LV:1",
  "LVT:1B LV:1 LVT:1B LV:1 LVT:1B LV:1 LVT:1B LV:1 LVT:1B LV:1 LVT:1B LV:1 LVT:1B LV:1 LVT:1B",
  "LV:1 LVT:1B LV:1 LVT:1B LV:1 LVT:1B LV:1 LVT:1B LV:1 LVT:1B LV:1 LVT:1B LV:1 LVT:1B LV:1",
  "LVT:1B LV:1 LVT:1B LV:1 LVT:1B LV:1 LVT:1B XX:C V:17 XX:4 T:31 XX:2322 EX:1 XX:2E1 EX:10",
  "XX:10 EX:10 XX:CF CN:1 XX:9E EX:2 XX:50 CN:C XX:201 EX:1 XX:E2 EX:1 XX:95 EX:5 XX:686 EX:3",
  "XX:1 EX:2 XX:5 EX:4 XX:28 EX:3 XX:4 EX:1 XX:A5 EX:2 XX:23D EX:4 XX:41 EX:5 XX:13D EX:2 XX:4F",
  "EX:4 XX:46 EX:B XX:31 EX:4 XX:7A SM:1 EX:1 SM:1 XX:35 EX:F XX:29 EX:1 XX:2 EX:2 XX:A EX:3",
  "SM:1 XX:2D SM:3 EX:4 SM:2 EX:2 XX:2 PP:1 XX:4 EX:1 XX:A PP:1 XX:32 EX:3 XX:24 EX:5 SM:1 EX:8",
  "XX:10 SM:2 XX:2C EX:1 XX:C EX:2 SM:1 XX:30 SM:3 EX:9 SM:1 EX:1 XX:1 PP:2 XX:5 EX:4 XX:1 SM:1",
  "EX:1 XX:5C SM:3 EX:3 SM:2 EX:4 XX:6 EX:1 XX:2 EX:1 XX:9D EX:1 SM:3 EX:8 XX:15 EX:2 SM:2",
  "XX:37 EX:2 XX:1 EX:1 SM:1 EX:1 SM:4 XX:2 SM:2 XX:2 SM:2 EX:1 XX:9 EX:1 XX:A SM:2 XX:2 EX:7",
  "XX:3 EX:5 XX:43 EX:1 SM:2 EX:6 XX:1 EX:1 XX:2 EX:1 XX:1 EX:3 SM:1 XX:1 SM:2 EX:3 PP:1 EX:1",
  "XX:E EX:2 XX:52 SM:3 EX:8 SM:2 EX:3 SM:1 EX:1 XX:17 EX:1 XX:51 EX:1 SM:2 EX:6 SM:1 EX:1 SM:2",
  "EX:1 SM:1 EX:2 SM:1 EX:2 XX:EB EX:1 SM:2 EX:4 XX:2 SM:4 EX:2 SM:1 EX:2 XX:1B EX:2 XX:52 SM:3",
  "EX:8 SM:2 EX:1 SM:1 EX:2 XX:6A EX:1 SM:1 EX:1 SM:2 EX:8 XX:65 EX:1 SM:1 EX:1 XX:2 EX:4 SM:1",
  "EX:5 XX:100 SM:3 EX:9 SM:1 EX:2 XX:F5 EX:1 SM:5 XX:1 SM:2 XX:2 EX:4 PP:1 SM:1 PP:1 SM:1 EX:1",
  "XX:8D SM:3 EX:4 XX:2 EX:2 SM:4 EX:1 XX:3 SM:1 XX:1C EX:A XX:28 EX:6 SM:1 PP:1 EX:4 XX:8 EX:1",
  "XX:9 EX:6 SM:2 EX:3 XX:28 PP:6 EX:D SM:1 EX:2 XX:195 SM:1 EX:7 XX:1 EX:6 SM:1 EX:1 XX:52",
  "EX:16 XX:1 SM:1 EX:7 SM:1 EX:2 SM:1 EX:2 XX:7A EX:6 XX:3 EX:1 XX:1 EX:2 XX:1 EX:7 PP:1 EX:1",
  "XX:42 SM:5 XX:1 EX:2 XX:1 SM:2 EX:1 SM:1 EX:1 XX:15B EX:2 SM:2 XX:9 EX:2 PP:1 SM:1 XX:30",
  "SM:2 EX:5 XX:3 SM:2 EX:3 XX:17 EX:1 XX:14D5 CN:10 EX:1 XX:6 EX:F XX:2CC8 EX:C SM:3 EX:3",
  "XX:9C0 EX:5 XX:3B EX:7 XX:22C V:1 XX:3 V:4 XX:1E4 EX:1 XX:1 SM:37 XX:7 EX:4 XX:51 EX:1 XX:B",
  "EX:2 XX:4CAB EX:2 XX:1 CN:4 XX:125C EX:2E XX:2 EX:17 XX:21E EX:5 XX:3 EX:6 CN:8 EX:8 XX:2",
  "EX:7 XX:1E EX:4 XX:94 EX:3 XX:7BB EX:37 XX:4 EX:32 XX:8 EX:1 XX:E EX:1 XX:16 EX:5 XX:1 EX:F",
  "XX:550 EX:7 XX:1 EX:11 XX:2 EX:7 XX:1 EX:2 XX:1 EX:5 XX:64 EX:1 XX:A0 EX:7 XX:177 EX:1 XX:3D",
  "EX:4 XX:1FC EX:4 XX:FE EX:2 XX:2E0 EX:7 XX:6D EX:7 XX:89B RI:1A XX:1FB EX:5 XX:C0C00 CN:20",
  "EX:60 CN:80 EX:F0 CN:E10 XX:2F000"]

/-- Word_Break of every code point, as runs in code point order. -/
def wordBreakRuns : List String := [
  "XX:A LF:1 NL:2 CR:1 XX:12 WSeg:1 XX:1 DQ:1 XX:4 SQ:1 XX:4 MN:1 XX:1 MB:1 XX:1 NU:A ML:1 MN:1",
  "XX:5 LE:1A XX:4 EX:1 XX:1 LE:1A XX:A NL:1 XX:24 LE:1 XX:2 FO:1 XX:7 LE:1 XX:1 ML:1 XX:2 LE:1",
  "XX:5 LE:17 XX:1 LE:1F XX:1 LE:1E0 XX:6 LE:22 Extend:70 LE:5 XX:1 LE:2 XX:2 LE:4 MN:1 LE:1",
  "XX:6 LE:1 ML:1 LE:3 XX:1 LE:1 XX:1 LE:14 XX:1 LE:53 XX:1 LE:8B XX:1 Extend:7 LE:A6 XX:1",
  "LE:26 XX:2 LE:4 XX:1 LE:1 ML:1 LE:29 MN:1 LE:1 XX:6 Extend:2D XX:1 Extend:1 XX:1 Extend:2",
  "XX:1 Extend:2 XX:1 Extend:1 XX:8 HL:1B XX:4 HL:4 LE:1 ML:1 XX:B NU:6 XX:6 MN:2 XX:2 Extend:B",
  "XX:1 FO:1 XX:3 LE:2B Extend:15 NU:A XX:1 NU:1 MN:1 XX:1 LE:2 Extend:1 LE:63 XX:1 LE:1",
  "Extend:7 NU:1 XX:1 Extend:6 LE:2 Extend:2 XX:1 Extend:4 LE:2 NU:A LE:3 XX:2 LE:1 XX:F LE:2",
  "Extend:1 LE:1E Extend:1B XX:2 LE:59 Extend:B LE:1 XX:E NU:A LE:21 Extend:9 LE:2 XX:2 MN:1",
  "XX:1 LE:1 XX:2 Extend:1 XX:2 LE:16 Extend:4 LE:1 Extend:9 LE:1 Extend:3 LE:1 Extend:5 XX:12",
  "LE:19 Extend:3 XX:4 LE:B XX:5 LE:18 XX:1 LE:6 XX:1 NU:2 XX:5 Extend:9 LE:2A Extend:18 NU:1",
  "Extend:21 LE:36 Extend:3 LE:1 Extend:12 LE:1 Extend:7 LE:A Extend:2 XX:2 NU:A XX:1 LE:10",
  "Extend:3 XX:1 LE:8 XX:2 LE:2 XX:2 LE:16 XX:1 LE:7 XX:1 LE:1 XX:3 LE:4 XX:2 Extend:1 LE:1",
  "Extend:7 XX:2 Extend:2 XX:2 Extend:3 LE:1 XX:8 Extend:1 XX:4 LE:2 XX:1 LE:3 Extend:2 XX:2",
  "NU:A LE:2 XX:A LE:1 XX:1 Extend:1 XX:2 Extend:3 XX:1 LE:6 XX:4 LE:2 XX:2 LE:16 XX:1 LE:7",
  "XX:1 LE:2 XX:1 LE:2 XX:1 LE:2 XX:2 Extend:1 XX:1 Extend:5 XX:4 Extend:2 XX:2 Extend:3 XX:3",
  "Extend:1 XX:7 LE:4 XX:1 LE:1 XX:7 NU:A Extend:2 LE:3 Extend:1 XX:B Extend:3 XX:1 LE:9 XX:1",
  "LE:3 XX:1 LE:16 XX:1 LE:7 XX:1 LE:2 XX:1 LE:5 XX:2 Extend:1 LE:1 Extend:8 XX:1 Extend:3 XX:1",
  "Extend:3 XX:2 LE:1 XX:F LE:2 Extend:2 XX:2 NU:A XX:9 LE:1 Extend:6 XX:1 Extend:3 XX:1 LE:8",
  "XX:2 LE:2 XX:2 LE:16 XX:1 LE:7 XX:1 LE:2 XX:1 LE:5 XX:2 Extend:1 LE:1 Extend:7 XX:2 Extend:2",
  "XX:2 Extend:3 XX:7 Extend:3 XX:4 LE:2 XX:1 LE:3 Extend:2 XX:2 NU:A XX:1 LE:1 XX:10 Extend:1",
  "LE:1 XX:1 LE:6 XX:3 LE:3 XX:1 LE:4 XX:3 LE:2 XX:1 LE:1 XX:1 LE:2 XX:3 LE:2 XX:3 LE:3 XX:3",
  "LE:C XX:4 Extend:5 XX:3 Extend:3 XX:1 Extend:4 XX:2 LE:1 XX:6 Extend:1 XX:E NU:A XX:10",
  "Extend:5 LE:8 XX:1 LE:3 XX:1 LE:17 XX:1 LE:10 XX:2 Extend:1 LE:1 Extend:7 XX:1 Extend:3 XX:1",
  "Extend:4 XX:7 Extend:2 XX:1 LE:3 XX:2 LE:1 XX:2 LE:2 Extend:2 XX:2 NU:A XX:10 LE:1 Extend:3",
  "XX:1 LE:8 XX:1 LE:3 XX:1 LE:17 XX:1 LE:A XX:1 LE:5 XX:2 Extend:1 LE:1 Extend:7 XX:1 Extend:3",
  "XX:1 Extend:4 XX:7 Extend:2 XX:6 LE:2 XX:1 LE:2 Extend:2 XX:2 NU:A XX:1 LE:2 Extend:1 XX:C",
  "Extend:4 LE:9 XX:1 LE:3 XX:1 LE:29 Extend:2 LE:1 Extend:7 XX:1 Extend:3 XX:1 Extend:4 LE:1",
  "XX:5 LE:3 Extend:1 XX:7 LE:3 Extend:2 XX:2 NU:A XX:A LE:6 XX:1 Extend:3 XX:1 LE:12 XX:3",
  "LE:18 XX:1 LE:9 XX:1 LE:1 XX:2 LE:7 XX:3 Extend:1 XX:4 Extend:6 XX:1 Extend:1 XX:1 Extend:8",
  "XX:6 NU:A XX:2 Extend:2 XX:3D Extend:1 XX:2 Extend:7 XX:C Extend:8 XX:1 NU:A XX:57 Extend:1",
  "XX:2 Extend:9 XX:B Extend:7 XX:1 NU:A XX:26 LE:1 XX:17 Extend:2 XX:6 NU:A XX:B Extend:1 XX:1",
  "Extend:1 XX:1 Extend:1 XX:4 Extend:2 LE:8 XX:1 LE:24 XX:4 Extend:14 XX:1 Extend:2 LE:5",
  "Extend:B XX:1 Extend:24 XX:9 Extend:1 XX:64 Extend:14 XX:1 NU:A XX:C Extend:4 XX:4 Extend:3",
  "XX:1 Extend:3 XX:2 Extend:7 XX:3 Extend:4 XX:D Extend:C XX:1 Extend:1 NU:A Extend:4 XX:2",
  "LE:26 XX:1 LE:1 XX:5 LE:1 XX:2 LE:2B XX:1 LE:14D XX:1 LE:4 XX:2 LE:7 XX:1 LE:1 XX:1 LE:4",
  "XX:2 LE:29 XX:1 LE:4 XX:2 LE:21 XX:1 LE:4 XX:2 LE:7 XX:1 LE:1 XX:1 LE:4 XX:2 LE:F XX:1 LE:39",
  "XX:1 LE:4 XX:2 LE:43 XX:2 Extend:3 XX:20 LE:10 XX:10 LE:56 XX:2 LE:6 XX:3 LE:26C XX:2 LE:11",
  "WSeg:1 LE:1A XX:5 LE:4B XX:3 LE:B XX:7 LE:12 Extend:4 XX:9 LE:13 Extend:3 XX:B LE:12",
  "Extend:2 XX:C LE:D XX:1 LE:3 XX:1 Extend:2 XX:40 Extend:20 XX:9 Extend:1 XX:2 NU:A XX:21",
  "Extend:3 FO:1 Extend:1 NU:A XX:6 LE:59 XX:7 LE:5 Extend:2 LE:22 Extend:1 LE:1 XX:5 LE:46",
  "XX:A LE:1F XX:1 Extend:C XX:4 Extend:C XX:A NU:A XX:80 NU:B XX:25 LE:17 Extend:5 XX:39",
  "Extend:A XX:1 Extend:1D XX:2 Extend:1 NU:A XX:6 NU:A XX:16 Extend:1F XX:31 Extend:5 LE:2F",
  "Extend:11 LE:8 XX:3 NU:A XX:11 Extend:9 XX:C Extend:3 LE:1E Extend:D LE:2 NU:A LE:2C",
  "Extend:E XX:C LE:24 Extend:14 XX:8 NU:A XX:3 LE:3 NU:A LE:24 XX:2 LE:B XX:5 LE:2B XX:2 LE:3",
  "XX:10 Extend:3 XX:1 Extend:15 LE:4 Extend:1 LE:6 Extend:1 LE:2 Extend:3 LE:1 XX:5 LE:C0",
  "Extend:40 LE:116 XX:2 LE:6 XX:2 LE:26 XX:2 LE:6 XX:2 LE:8 XX:1 LE:1 XX:1 LE:1 XX:1 LE:1 XX:1",
  "LE:1F XX:2 LE:35 XX:1 LE:7 XX:1 LE:1 XX:3 LE:3 XX:1 LE:7 XX:3 LE:4 XX:2 LE:6 XX:4 LE:D XX:5",
  "LE:3 XX:1 LE:7 XX:3 WSeg:7 XX:1 WSeg:3 XX:1 Extend:1 ZWJ:1 FO:2 XX:8 MB:2 XX:A MB:1 XX:2",
  "ML:1 NL:2 FO:5 EX:1 XX:F EX:2 XX:3 MN:1 XX:F EX:1 XX:A WSeg:1 FO:5 XX:1 FO:A XX:1 LE:1 XX:D",
  "LE:1 XX:10 LE:D XX:33 Extend:21 XX:11 LE:1 XX:4 LE:1 XX:2 LE:A XX:1 LE:1 XX:3 LE:5 XX:6 LE:1",
  "XX:1 LE:1 XX:1 LE:1 XX:1 LE:4 XX:1 LE:B XX:2 LE:4 XX:5 LE:5 XX:4 LE:1 XX:11 LE:29 XX:32D",
  "LE:34 XX:716 LE:E5 XX:6 LE:4 Extend:3 LE:2 XX:C LE:26 XX:1 LE:1 XX:5 LE:1 XX:2 LE:38 XX:7",
  "LE:1 XX:F Extend:1 LE:17 XX:9 LE:7 XX:1 LE:7 XX:1 LE:7 XX:1 LE:7 XX:1 LE:7 XX:1 LE:7 XX:1",
  "LE:7 XX:1 LE:7 XX:1 Extend:20 XX:2F LE:1 XX:1D0 WSeg:1 XX:4 LE:1 XX:24 Extend:6 XX:1 KA:5",
  "XX:5 LE:2 XX:5C Extend:2 KA:2 XX:3 KA:5B XX:1 KA:4 XX:5 LE:2B XX:1 LE:5E XX:11 LE:20 XX:30",
  "KA:10 XX:D0 KA:2F XX:1 KA:58 XX:6CA8 LE:48D XX:43 LE:2E XX:2 LE:10D XX:3 LE:10 NU:A LE:2",
  "XX:14 LE:2F Extend:4 XX:1 Extend:A XX:1 LE:1F Extend:2 LE:50 Extend:2 XX:16 LE:C6 XX:2 LE:2",
  "XX:1 LE:1 XX:1 LE:8 XX:15 LE:10 Extend:1 LE:3 Extend:1 LE:4 Extend:1 LE:17 Extend:5 XX:4",
  "Extend:1 XX:13 LE:34 XX:C Extend:2 LE:32 Extend:12 XX:A NU:A XX:6 Extend:12 LE:6 XX:3 LE:1",
  "XX:1 LE:2 Extend:1 NU:A LE:1C Extend:8 XX:2 LE:17 Extend:D XX:C LE:1D XX:3 Extend:4 LE:2F",
  "Extend:E XX:E LE:1 NU:A XX:B Extend:1 XX:A NU:A XX:6 LE:29 Extend:E XX:9 LE:3 Extend:1 LE:8",
  "Extend:2 XX:2 NU:A XX:21 Extend:3 XX:32 Extend:1 XX:1 Extend:3 XX:2 Extend:2 XX:5 Extend:2",
  "XX:1 Extend:1 XX:1E LE:B Extend:5 XX:2 LE:3 Extend:2 XX:A LE:6 XX:2 LE:6 XX:2 LE:6 XX:9 LE:7",
  "XX:1 LE:7 XX:1 LE:3A XX:6 LE:73 Extend:8 XX:1 Extend:2 XX:2 NU:A XX:6 LE:2BA4 XX:C LE:17",
  "XX:4 LE:31 XX:2304 LE:7 XX:C LE:5 XX:5 HL:1 Extend:1 HL:A XX:1 HL:D XX:1 HL:5 XX:1 HL:1 XX:1",
  "HL:2 XX:1 HL:2 XX:1 HL:A LE:62 XX:21 LE:16B XX:12 LE:40 XX:2 LE:36 XX:28 LE:C XX:4 Extend:10",
  "XX:3 ML:1 XX:C Extend:10 XX:3 EX:2 XX:18 EX:3 MN:1 XX:1 MB:1 XX:1 MN:1 ML:1 XX:1A LE:5 XX:1",
  "LE:87 XX:2 FO:1 XX:7 MB:1 XX:4 MN:1 XX:1 MB:1 XX:1 NU:A ML:1 MN:1 XX:5 LE:1A XX:4 EX:1 XX:1",
  "LE:1A XX:B KA:38 Extend:2 LE:1F XX:3 LE:6 XX:2 LE:6 XX:2 LE:6 XX:2 LE:3 XX:1C FO:3 XX:4 LE:C",
  "XX:1 LE:1A XX:1 LE:13 XX:1 LE:2 XX:1 LE:F XX:2 LE:E XX:22 LE:7B XX:45 LE:35 XX:88 Extend:1",
  "XX:82 LE:1D XX:3 LE:31 XX:F Extend:1 XX:1F LE:20 XX:D LE:1E XX:5 LE:26 Extend:5 XX:5 LE:1E",
  "XX:2 LE:24 XX:4 LE:8 XX:1 LE:5 XX:2A LE:9E XX:2 NU:A XX:6 LE:24 XX:4 LE:24 XX:4 LE:28 XX:8",
  "LE:34 XX:C LE:B XX:1 LE:F XX:1 LE:7 XX:1 LE:2 XX:1 LE:B XX:1 LE:F XX:1 LE:7 XX:1 LE:2 XX:3",
  "LE:34 XX:C LE:137 XX:9 LE:16 XX:A LE:8 XX:18 LE:6 XX:1 LE:2A XX:1 LE:9 XX:45 LE:6 XX:2 LE:1",
  "XX:1 LE:2C XX:1 LE:2 XX:3 LE:1 XX:2 LE:17 XX:A LE:17 XX:9 LE:1F XX:41 LE:13 XX:1 LE:2 XX:A",
  "LE:16 XX:A LE:1A XX:46 LE:38 XX:6 LE:2 XX:40 LE:1 Extend:3 XX:1 Extend:2 XX:5 Extend:4 LE:4",
  "XX:1 LE:3 XX:1 LE:1D XX:2 Extend:3 XX:4 Extend:1 XX:20 LE:1D XX:3 LE:1D XX:23 LE:8 XX:1",
  "LE:1C Extend:2 XX:19 LE:36 XX:A LE:16 XX:A LE:13 XX:D LE:12 XX:6E LE:49 XX:37 LE:33 XX:D",
  "LE:33 XX:D LE:24 Extend:4 XX:8 NU:A XX:6 NU:A LE:1C XX:3 Extend:5 XX:1 LE:17 XX:FA LE:2A",
  "XX:1 Extend:2 XX:3 LE:2 XX:10 LE:3 XX:37 Extend:4 LE:1D XX:A LE:1 XX:8 LE:16 Extend:B XX:1F",
  "LE:12 Extend:4 XX:2A LE:15 XX:1B LE:17 XX:9 Extend:3 LE:35 Extend:F XX:1F NU:A Extend:1 LE:2",
  "Extend:2 LE:1 XX:9 Extend:4 LE:2D Extend:B XX:2 NU:1 XX:4 Extend:1 XX:A NU:1 XX:2 LE:19 XX:7",
  "NU:A XX:6 Extend:3 LE:24 Extend:E XX:1 NU:A XX:4 LE:1 Extend:2 LE:1 XX:8 LE:23 Extend:1 XX:2",
  "LE:1 XX:9 Extend:3 LE:30 Extend:E LE:4 XX:4 Extend:4 XX:1 Extend:2 NU:A LE:1 XX:1 LE:1 XX:23",
  "LE:12 XX:1 LE:19 Extend:C XX:6 Extend:1 LE:2 Extend:1 XX:3E LE:7 XX:1 LE:1 XX:1 LE:4 XX:1",
  "LE:F XX:1 LE:A XX:7 LE:2F Extend:C XX:5 NU:A XX:6 Extend:4 XX:1 LE:8 XX:2 LE:2 XX:2 LE:16",
  "XX:1 LE:7 XX:1 LE:2 XX:1 LE:5 XX:1 Extend:2 LE:1 Extend:7 XX:2 Extend:2 XX:2 Extend:3 XX:2",
  "LE:1 XX:6 Extend:1 XX:5 LE:5 Extend:2 XX:2 Extend:7 XX:3 Extend:5 XX:B LE:A XX:1 LE:1 XX:2",
  "LE:1 XX:1 LE:26 XX:1 LE:1 Extend:9 XX:1 Extend:1 XX:2 Extend:1 XX:1 Extend:4 XX:1 Extend:5",
  "LE:1 Extend:1 LE:1 XX:D Extend:2 XX:1D LE:35 Extend:12 LE:4 XX:5 NU:A XX:4 Extend:1 LE:3",
  "XX:1E LE:30 Extend:14 LE:2 XX:1 LE:1 XX:8 NU:A XX:A6 LE:2F Extend:7 XX:2 Extend:9 XX:17 LE:4",
  "Extend:2 XX:22 LE:30 Extend:11 XX:3 LE:1 XX:B NU:A XX:26 LE:2B Extend:D LE:1 XX:7 NU:A XX:6",
  "NU:14 XX:39 Extend:F XX:4 NU:A XX:C6 LE:2C Extend:F XX:65 LE:40 NU:A XX:15 LE:8 XX:2 LE:1",
  "XX:2 LE:8 XX:1 LE:2 XX:1 LE:18 Extend:6 XX:1 Extend:2 XX:2 Extend:4 LE:1 Extend:1 LE:1",
  "Extend:2 XX:C NU:A XX:46 LE:8 XX:2 LE:27 Extend:7 XX:2 Extend:7 LE:1 XX:1 LE:1 Extend:1",
  "XX:1B LE:1 Extend:A LE:28 Extend:7 LE:1 Extend:4 XX:8 Extend:1 XX:8 LE:1 Extend:B LE:2E",
  "Extend:10 XX:3 LE:1 XX:12 LE:49 XX:C7 LE:21 XX:F NU:A XX:6 LE:9 XX:1 LE:25 Extend:8 XX:1",
  "Extend:8 LE:1 XX:F NU:A XX:18 LE:1E XX:2 Extend:16 XX:1 Extend:E XX:49 LE:7 XX:1 LE:2 XX:1",
  "LE:26 Extend:6 XX:3 Extend:1 XX:1 Extend:2 XX:1 Extend:7 LE:1 Extend:1 XX:8 NU:A XX:6 LE:6",
  "XX:1 LE:2 XX:1 LE:20 Extend:5 XX:1 Extend:2 XX:1 Extend:5 LE:1 XX:7 NU:A XX:136 LE:13",
  "Extend:4 XX:9 Extend:2 LE:1 Extend:1 LE:D XX:1 LE:22 Extend:7 XX:3 Extend:5 XX:D NU:A",
  "Extend:1 XX:55 LE:1 XX:4F LE:39A XX:66 LE:6F XX:11 LE:C4 XX:A4C LE:61 XX:F LE:430 FO:10",
  "Extend:1 LE:6 Extend:F XX:A LE:F9B XX:5 LE:247 XX:1AB9 LE:1E Extend:12 NU:A XX:6C6 LE:239",
  "XX:7 LE:1F XX:1 NU:A XX:6 LE:4F XX:1 NU:A XX:6 LE:1E XX:2 Extend:5 XX:B LE:30 Extend:7 XX:9",
  "LE:4 XX:C NU:A XX:9 LE:15 XX:5 LE:13 XX:1B0 LE:2D XX:3 NU:A XX:C6 LE:40 XX:80 LE:4B XX:4",
  "Extend:1 LE:1 Extend:37 XX:7 Extend:4 LE:D XX:40 LE:2 XX:1 LE:1 Extend:1 XX:B Extend:2",
  "XX:3FFE KA:4 XX:1 KA:7 XX:1 KA:2 XX:1 KA:1 XX:11F KA:3 XX:32 KA:1 XX:E KA:4 XX:A98 LE:6B",
  "XX:5 LE:D XX:3 LE:9 XX:7 LE:A XX:3 Extend:2 XX:1 FO:4 XX:104C NU:A XX:206 Extend:2E XX:2",
  "Extend:17 XX:21E Extend:5 XX:3 Extend:6 FO:8 Extend:8 XX:2 Extend:7 XX:1E Extend:4 XX:94",
  "Extend:3 XX:1BB LE:55 XX:1 LE:47 XX:1 LE:2 XX:2 LE:1 XX:2 LE:2 XX:2 LE:4 XX:1 LE:C XX:1 LE:1",
  "XX:1 LE:7 XX:1 LE:41 XX:1 LE:4 XX:2 LE:8 XX:1 LE:7 XX:1 LE:1C XX:1 LE:4 XX:1 LE:5 XX:1 LE:1",
  "XX:3 LE:7 XX:1 LE:154 XX:2 LE:19 XX:1 LE:19 XX:1 LE:1F XX:1 LE:19 XX:1 LE:1F XX:1 LE:19 XX:1",
  "LE:1F XX:1 LE:19 XX:1 LE:1F XX:1 LE:19 XX:1 LE:8 XX:2 NU:32 XX:200 Extend:37 XX:4 Extend:32",
  "XX:8 Extend:1 XX:E Extend:1 XX:16 Extend:5 XX:1 Extend:F XX:450 LE:1F XX:6 LE:6 XX:D5",
  "Extend:7 XX:1 Extend:11 XX:2 Extend:7 XX:1 Extend:2 XX:1 Extend:5 XX:5 LE:3E XX:21 Extend:1",
  "XX:70 LE:2D XX:3 Extend:7 LE:7 XX:2 NU:A XX:4 LE:1 XX:141 LE:1E Extend:1 XX:11 LE:2C",
  "Extend:4 NU:A XX:1D6 LE:1C Extend:4 NU:A XX:D6 LE:1E Extend:2 LE:1 NU:A XX:1E5 LE:7 XX:1",
  "LE:4 XX:1 LE:2 XX:1 LE:F XX:1 LE:C5 XX:B Extend:7 XX:29 LE:44 Extend:7 LE:1 XX:4 NU:A XX:4A6",
  "LE:4 XX:1 LE:1B XX:1 LE:2 XX:1 LE:1 XX:2 LE:1 XX:1 LE:A XX:1 LE:4 XX:1 LE:1 XX:1 LE:1 XX:6",
  "LE:1 XX:4 LE:1 XX:1 LE:1 XX:1 LE:1 XX:1 LE:3 XX:1 LE:2 XX:1 LE:1 XX:2 LE:1 XX:1 LE:1 XX:1",
  "LE:1 XX:1 LE:1 XX:1 LE:1 XX:1 LE:2 XX:1 LE:1 XX:2 LE:4 XX:1 LE:7 XX:1 LE:4 XX:1 LE:4 XX:1",
  "LE:1 XX:1 LE:A XX:1 LE:11 XX:5 LE:3 XX:1 LE:5 XX:1 LE:11 XX:274 LE:1A XX:6 LE:1A XX:6 LE:1A",
  "XX:5C RI:1A XX:1FB Extend:5 XX:7F0 NU:A XX:C0407 FO:1 XX:1E Extend:60 XX:80 Extend:F0",
  "XX:2FE10"]

/-- Sentence_Break of every code point, as runs in code point order. -/
def sentenceBreakRuns : List String := [
  "XX:9 SP:1 LF:1 SP:2 CR:1 XX:12 SP:1 ST:1 CL:1 XX:4 CL:3 XX:2 SC:2 AT:1 XX:1 NU:A SC:2 XX:3",
  "ST:1 XX:1 UP:1A CL:1 XX:1 CL:1 XX:3 LO:1A CL:1 XX:1 CL:1 XX:7 SE:1 XX:1A SP:1 XX:9 LO:1 CL:1",
  "XX:1 FO:1 XX:7 LO:1 XX:4 LO:1 CL:1 XX:4 UP:17 XX:1 UP:7 LO:18 XX:1 LO:8 UP:1 LO:1 UP:1 LO:1",
  "UP:1 LO:1 UP:1 LO:1 UP:1 LO:1 UP:1 LO:1 UP:1 LO:1 UP:1 LO:1 UP:1 LO:1 UP:1 LO:1 UP:1 LO:1",
  "UP:1 LO:1 UP:1 LO:1 UP:1 LO:1 UP:1 LO:1 UP:1 LO:1 UP:1 LO:1 UP:1 LO:1 UP:1 LO:1 UP:1 LO:1",
  "UP:1 LO:1 UP:1 LO:1 UP:1 LO:1 UP:1 LO:1 UP:1 LO:1 UP:1 LO:1 UP:1 LO:1 UP:1 LO:2 UP:1 LO:1",
  "UP:1 LO:1 UP:1 LO:1 UP:1 LO:1 UP:1 LO:1 UP:1 LO:1 UP:1 LO:1 UP:1 LO:2 UP:1 LO:1 UP:1 LO:1",
  "UP:1 LO:1 UP:1 LO:1 UP:1 LO:1 UP:1 LO:1 UP:1 LO:1 UP:1 LO:1 UP:1 LO:1 UP:1 LO:1 UP:1 LO:1",
  "UP:1 LO:1 UP:1 LO:1 UP:1 LO:1 UP:1 LO:1 UP:1 LO:1 UP:1 LO:1 UP:1 LO:1 UP:1 LO:1 UP:1 LO:1",
  "UP:1 LO:1 UP:1 LO:1 UP:1 LO:1 UP:2 LO:1 UP:1 LO:1 UP:1 LO:3 UP:2 LO:1 UP:1 LO:1 UP:2 LO:1",
  "UP:3 LO:2 UP:4 LO:1 UP:2 LO:1 UP:3 LO:3 UP:2 LO:1 UP:2 LO:1 UP:1 LO:1 UP:1 LO:1 UP:2 LO:1",
  "UP:1 LO:2 UP:1 LO:1 UP:2 LO:1 UP:3 LO:1 UP:1 LO:1 UP:2 LO:2 LE:1 UP:1 LO:3 LE:4 UP:2 LO:1",
  "UP:2 LO:1 UP:2 LO:1 UP:1 LO:1 UP:1 LO:1 UP:1 LO:1 UP:1 LO:1 UP:1 LO:1 UP:1 LO:1 UP:1 LO:1",
  "UP:1 LO:2 UP:1 LO:1 UP:1 LO:1 UP:1 LO:1 UP:1 LO:1 UP:1 LO:1 UP:1 LO:1 UP:1 LO:1 UP:1 LO:1",
  "UP:1 LO:2 UP:2 LO:1 UP:1 LO:1 UP:3 LO:1 UP:1 LO:1 UP:1 LO:1 UP:1 LO:1 UP:1 LO:1 UP:1 LO:1",
  "UP:1 LO:1 UP:1 LO:1 UP:1 LO:1 UP:1 LO:1 UP:1 LO:1 UP:1 LO:1 UP:1 LO:1 UP:1 LO:1 UP:1 LO:1",
  "UP:1 LO:1 UP:1 LO:1 UP:1 LO:1 UP:1 LO:1 UP:1 LO:1 UP:1 LO:1 UP:1 LO:1 UP:1 LO:1 UP:1 LO:1",
  "UP:1 LO:1 UP:1 LO:1 UP:1 LO:1 UP:1 LO:1 UP:1 LO:1 UP:1 LO:7 UP:2 LO:1 UP:2 LO:2 UP:1 LO:1",
  "UP:4 LO:1 UP:1 LO:1 UP:1 LO:1 UP:1 LO:1 UP:1 LO:45 LE:1 LO:24 LE:7 LO:2 XX:4 LE:C XX:E LO:5",
  "XX:7 LE:1 XX:1 LE:1 XX:11 EX:70 UP:1 LO:1 UP:1 LO:1 LE:1 XX:1 UP:1 LO:1 XX:2 LO:4 SC:1 UP:1",
  "XX:6 UP:1 XX:1 UP:3 XX:1 UP:1 XX:1 UP:2 LO:1 UP:11 XX:1 UP:9 LO:23 UP:1 LO:2 UP:3 LO:3 UP:1",
  "LO:1 UP:1 LO:1 UP:1 LO:1 UP:1 LO:1 UP:1 LO:1 UP:1 LO:1 UP:1 LO:1 UP:1 LO:1 UP:1 LO:1 UP:1",
  "LO:1 UP:1 LO:1 UP:1 LO:5 UP:1 LO:1 XX:1 UP:1 LO:1 UP:2 LO:2 UP:33 LO:30 UP:1 LO:1 UP:1 LO:1",
  "UP:1 LO:1 UP:1 LO:1 UP:1 LO:1 UP:1 LO:1 UP:1 LO:1 UP:1 LO:1 UP:1 LO:1 UP:1 LO:1 UP:1 LO:1",
  "UP:1 LO:1 UP:1 LO:1 UP:1 LO:1 UP:1 LO:1 UP:1 LO:1 UP:1 LO:1 XX:1 EX:7 UP:1 LO:1 UP:1 LO:1",
  "UP:1 LO:1 UP:1 LO:1 UP:1 LO:1 UP:1 LO:1 UP:1 LO:1 UP:1 LO:1 UP:1 LO:1 UP:1 LO:1 UP:1 LO:1",
  "UP:1 LO:1 UP:1 LO:1 UP:1 LO:1 UP:1 LO:1 UP:1 LO:1 UP:1 LO:1 UP:1 LO:1 UP:1 LO:1 UP:1 LO:1",
  "UP:1 LO:1 UP:1 LO:1 UP:1 LO:1 UP:1 LO:1 UP:1 LO:1 UP:1 LO:1 UP:1 LO:1 UP:2 LO:1 UP:1 LO:1",
  "UP:1 LO:1 UP:1 LO:1 UP:1 LO:1 UP:1 LO:1 UP:1 LO:2 UP:1 LO:1 UP:1 LO:1 UP:1 LO:1 UP:1 LO:1",
  "UP:1 LO:1 UP:1 LO:1 UP:1 LO:1 UP:1 LO:1 UP:1 LO:1 UP:1 LO:1 UP:1 LO:1 UP:1 LO:1 UP:1 LO:1",
  "UP:1 LO:1 UP:1 LO:1 UP:1 LO:1 UP:1 LO:1 UP:1 LO:1 UP:1 LO:1 UP:1 LO:1 UP:1 LO:1 UP:1 LO:1",
  "UP:1 LO:1 UP:1 LO:1 UP:1 LO:1 UP:1 LO:1 UP:1 LO:1 UP:1 LO:1 UP:1 LO:1 UP:1 LO:1 UP:1 LO:1",
  "UP:1 LO:1 UP:1 LO:1 UP:1 LO:1 UP:1 LO:1 UP:1 LO:1 UP:1 LO:1 UP:1 LO:1 UP:1 LO:1 UP:1 LO:1",
  "UP:1 LO:1 UP:1 LO:1 UP:1 LO:1 UP:1 LO:1 UP:1 LO:1 UP:1 LO:1 UP:1 LO:1 UP:1 LO:1 XX:1 UP:26",
  "XX:2 LE:1 XX:3 SC:1 XX:2 LO:29 ST:1 XX:7 EX:2D XX:1 EX:1 XX:1 EX:2 XX:1 EX:2 XX:1 EX:1 XX:8",
  "LE:1B XX:4 LE:5 XX:C NU:6 XX:6 SC:2 XX:2 EX:B XX:1 FO:1 ST:3 LE:2B EX:15 NU:A XX:1 NU:2 XX:1",
  "LE:2 EX:1 LE:63 ST:1 LE:1 EX:7 NU:1 XX:1 EX:6 LE:2 EX:2 XX:1 EX:4 LE:2 NU:A LE:3 XX:2 LE:1",
  "ST:3 XX:C FO:1 LE:1 EX:1 LE:1E EX:1B XX:2 LE:59 EX:B LE:1 XX:E NU:A LE:21 EX:9 LE:2 XX:2",
  "SC:1 ST:1 LE:1 XX:2 EX:1 XX:2 LE:16 EX:4 LE:1 EX:9 LE:1 EX:3 LE:1 EX:5 XX:9 ST:1 XX:1 ST:1",
  "XX:3 ST:2 XX:1 LE:19 EX:3 XX:4 LE:B XX:5 LE:18 XX:1 LE:6 XX:1 NU:2 XX:5 EX:9 LE:2A EX:18",
  "NU:1 EX:21 LE:36 EX:3 LE:1 EX:12 LE:1 EX:7 LE:A EX:2 ST:2 NU:A XX:1 LE:10 EX:3 XX:1 LE:8",
  "XX:2 LE:2 XX:2 LE:16 XX:1 LE:7 XX:1 LE:1 XX:3 LE:4 XX:2 EX:1 LE:1 EX:7 XX:2 EX:2 XX:2 EX:3",
  "LE:1 XX:8 EX:1 XX:4 LE:2 XX:1 LE:3 EX:2 XX:2 NU:A LE:2 XX:A LE:1 XX:1 EX:1 XX:2 EX:3 XX:1",
  "LE:6 XX:4 LE:2 XX:2 LE:16 XX:1 LE:7 XX:1 LE:2 XX:1 LE:2 XX:1 LE:2 XX:2 EX:1 XX:1 EX:5 XX:4",
  "EX:2 XX:2 EX:3 XX:3 EX:1 XX:7 LE:4 XX:1 LE:1 XX:7 NU:A EX:2 LE:3 EX:1 XX:B EX:3 XX:1 LE:9",
  "XX:1 LE:3 XX:1 LE:16 XX:1 LE:7 XX:1 LE:2 XX:1 LE:5 XX:2 EX:1 LE:1 EX:8 XX:1 EX:3 XX:1 EX:3",
  "XX:2 LE:1 XX:F LE:2 EX:2 XX:2 NU:A XX:9 LE:1 EX:6 XX:1 EX:3 XX:1 LE:8 XX:2 LE:2 XX:2 LE:16",
  "XX:1 LE:7 XX:1 LE:2 XX:1 LE:5 XX:2 EX:1 LE:1 EX:7 XX:2 EX:2 XX:2 EX:3 XX:7 EX:3 XX:4 LE:2",
  "XX:1 LE:3 EX:2 XX:2 NU:A XX:1 LE:1 XX:10 EX:1 LE:1 XX:1 LE:6 XX:3 LE:3 XX:1 LE:4 XX:3 LE:2",
  "XX:1 LE:1 XX:1 LE:2 XX:3 LE:2 XX:3 LE:3 XX:3 LE:C XX:4 EX:5 XX:3 EX:3 XX:1 EX:4 XX:2 LE:1",
  "XX:6 EX:1 XX:E NU:A XX:10 EX:5 LE:8 XX:1 LE:3 XX:1 LE:17 XX:1 LE:10 XX:2 EX:1 LE:1 EX:7 XX:1",
  "EX:3 XX:1 EX:4 XX:7 EX:2 XX:1 LE:3 XX:2 LE:1 XX:2 LE:2 EX:2 XX:2 NU:A XX:10 LE:1 EX:3 XX:1",
  "LE:8 XX:1 LE:3 XX:1 LE:17 XX:1 LE:A XX:1 LE:5 XX:2 EX:1 LE:1 EX:7 XX:1 EX:3 XX:1 EX:4 XX:7",
  "EX:2 XX:6 LE:2 XX:1 LE:2 EX:2 XX:2 NU:A XX:1 LE:2 EX:1 XX:C EX:4 LE:9 XX:1 LE:3 XX:1 LE:29",
  "EX:2 LE:1 EX:7 XX:1 EX:3 XX:1 EX:4 LE:1 XX:5 LE:3 EX:1 XX:7 LE:3 EX:2 XX:2 NU:A XX:A LE:6",
  "XX:1 EX:3 XX:1 LE:12 XX:3 LE:18 XX:1 LE:9 XX:1 LE:1 XX:2 LE:7 XX:3 EX:1 XX:4 EX:6 XX:1 EX:1",
  "XX:1 EX:8 XX:6 NU:A XX:2 EX:2 XX:D LE:30 EX:1 LE:2 EX:7 XX:5 LE:7 EX:8 XX:1 NU:A XX:27 LE:2",
  "XX:1 LE:1 XX:1 LE:5 XX:1 LE:18 XX:1 LE:1 XX:1 LE:A EX:1 LE:2 EX:9 LE:1 XX:2 LE:5 XX:1 LE:1",
  "XX:1 EX:7 XX:1 NU:A XX:2 LE:4 XX:20 LE:1 XX:17 EX:2 XX:6 NU:A XX:B EX:1 XX:1 EX:1 XX:1 EX:1",
  "CL:4 EX:2 LE:8 XX:1 LE:24 XX:4 EX:14 XX:1 EX:2 LE:5 EX:B XX:1 EX:24 XX:9 EX:1 XX:39 LE:2B",
  "EX:14 LE:1 NU:A ST:2 XX:4 LE:6 EX:4 LE:4 EX:3 LE:1 EX:3 LE:2 EX:7 LE:3 EX:4 LE:D EX:C LE:1",
  "EX:1 NU:A EX:4 XX:2 UP:26 XX:1 UP:1 XX:5 UP:1 XX:2 LE:2B XX:1 LO:1 LE:14C XX:1 LE:4 XX:2",
  "LE:7 XX:1 LE:1 XX:1 LE:4 XX:2 LE:29 XX:1 LE:4 XX:2 LE:21 XX:1 LE:4 XX:2 LE:7 XX:1 LE:1 XX:1",
  "LE:4 XX:2 LE:F XX:1 LE:39 XX:1 LE:4 XX:2 LE:43 XX:2 EX:3 XX:2 ST:1 XX:4 ST:2 XX:17 LE:10",
  "XX:10 UP:56 XX:2 LO:6 XX:3 LE:26C XX:1 ST:1 LE:11 SP:1 LE:1A CL:2 XX:3 LE:4B XX:3 LE:B XX:7",
  "LE:12 EX:4 XX:9 LE:13 EX:3 ST:2 XX:9 LE:12 EX:2 XX:C LE:D XX:1 LE:3 XX:1 EX:2 XX:C LE:34",
  "EX:20 ST:2 XX:1 LE:1 XX:4 LE:1 EX:1 XX:2 NU:A XX:18 SC:1 ST:1 XX:4 SC:1 ST:1 XX:1 EX:3 FO:1",
  "EX:1 NU:A XX:6 LE:59 XX:7 LE:5 EX:2 LE:22 EX:1 LE:1 XX:5 LE:46 XX:A LE:1F XX:1 EX:C XX:4",
  "EX:C XX:8 ST:2 NU:A LE:1E XX:2 LE:5 XX:B LE:2C XX:4 LE:1A XX:6 NU:B XX:25 LE:17 EX:5 XX:4",
  "LE:35 EX:A XX:1 EX:1D XX:2 EX:1 NU:A XX:6 NU:A XX:D LE:1 ST:4 XX:4 EX:1F XX:31 EX:5 LE:2F",
  "EX:11 LE:8 XX:1 ST:2 NU:A ST:2 XX:2 ST:2 XX:B EX:9 XX:9 ST:3 EX:3 LE:1E EX:D LE:2 NU:A LE:2C",
  "EX:E XX:C LE:24 EX:14 XX:3 ST:2 XX:3 NU:A XX:3 LE:3 NU:A LE:24 ST:2 LO:9 UP:1 LO:1 XX:5",
  "LE:2B XX:2 LE:3 XX:10 EX:3 XX:1 EX:15 LE:4 EX:1 LE:6 EX:1 LE:2 EX:3 LE:1 XX:5 LO:C0 EX:40",
  "UP:1 LO:1 UP:1 LO:1 UP:1 LO:1 UP:1 LO:1 UP:1 LO:1 UP:1 LO:1 UP:1 LO:1 UP:1 LO:1 UP:1 LO:1",
  "UP:1 LO:1 UP:1 LO:1 UP:1 LO:1 UP:1 LO:1 UP:1 LO:1 UP:1 LO:1 UP:1 LO:1 UP:1 LO:1 UP:1 LO:1",
  "UP:1 LO:1 UP:1 LO:1 UP:1 LO:1 UP:1 LO:1 UP:1 LO:1 UP:1 LO:1 UP:1 LO:1 UP:1 LO:1 UP:1 LO:1",
  "UP:1 LO:1 UP:1 LO:1 UP:1 LO:1 UP:1 LO:1 UP:1 LO:1 UP:1 LO:1 UP:1 LO:1 UP:1 LO:1 UP:1 LO:1",
  "UP:1 LO:1 UP:1 LO:1 UP:1 LO:1 UP:1 LO:1 UP:1 LO:1 UP:1 LO:1 UP:1 LO:1 UP:1 LO:1 UP:1 LO:1",
  "UP:1 LO:1 UP:1 LO:1 UP:1 LO:1 UP:1 LO:1 UP:1 LO:1 UP:1 LO:1 UP:1 LO:1 UP:1 LO:1 UP:1 LO:1",
  "UP:1 LO:1 UP:1 LO:1 UP:1 LO:1 UP:1 LO:1 UP:1 LO:1 UP:1 LO:1 UP:1 LO:1 UP:1 LO:1 UP:1 LO:1",
  "UP:1 LO:1 UP:1 LO:1 UP:1 LO:1 UP:1 LO:1 UP:1 LO:1 UP:1 LO:1 UP:1 LO:1 UP:1 LO:1 UP:1 LO:1",
  "UP:1 LO:1 UP:1 LO:1 UP:1 LO:9 UP:1 LO:1 UP:1 LO:1 UP:1 LO:1 UP:1 LO:1 UP:1 LO:1 UP:1 LO:1",
  "UP:1 LO:1 UP:1 LO:1 UP:1 LO:1 UP:1 LO:1 UP:1 LO:1 UP:1 LO:1 UP:1 LO:1 UP:1 LO:1 UP:1 LO:1",
  "UP:1 LO:1 UP:1 LO:1 UP:1 LO:1 UP:1 LO:1 UP:1 LO:1 UP:1 LO:1 UP:1 LO:1 UP:1 LO:1 UP:1 LO:1",
  "UP:1 LO:1 UP:1 LO:1 UP:1 LO:1 UP:1 LO:1 UP:1 LO:1 UP:1 LO:1 UP:1 LO:1 UP:1 LO:1 UP:1 LO:1",
  "UP:1 LO:1 UP:1 LO:1 UP:1 LO:1 UP:1 LO:1 UP:1 LO:1 UP:1 LO:1 UP:1 LO:1 UP:1 LO:1 UP:1 LO:1",
  "UP:1 LO:1 UP:1 LO:1 UP:1 LO:1 UP:1 LO:1 UP:1 LO:1 UP:1 LO:1 UP:1 LO:9 UP:8 LO:6 XX:2 UP:6",
  "XX:2 LO:8 UP:8 LO:8 UP:8 LO:6 XX:2 UP:6 XX:2 LO:8 XX:1 UP:1 XX:1 UP:1 XX:1 UP:1 XX:1 UP:1",
  "LO:8 UP:8 LO:E XX:2 LO:8 UP:8 LO:8 UP:8 LO:8 UP:8 LO:5 XX:1 LO:2 UP:5 XX:1 LO:1 XX:3 LO:3",
  "XX:1 LO:2 UP:5 XX:3 LO:4 XX:2 LO:2 UP:4 XX:4 LO:8 UP:5 XX:5 LO:3 XX:1 LO:2 UP:5 XX:3 SP:B",
  "FO:1 EX:2 FO:2 XX:3 SC:2 XX:3 CL:8 XX:4 AT:1 XX:3 SE:2 FO:5 SP:1 XX:9 CL:2 XX:1 ST:2 XX:7",
  "CL:2 ST:3 XX:15 SP:1 FO:5 XX:1 FO:A XX:1 LO:1 XX:B CL:2 LO:1 XX:D CL:2 XX:1 LO:D XX:33 EX:21",
  "XX:11 UP:1 XX:4 UP:1 XX:2 LO:1 UP:3 LO:2 UP:3 LO:1 XX:1 UP:1 XX:3 UP:5 XX:6 UP:1 XX:1 UP:1",
  "XX:1 UP:1 XX:1 UP:4 XX:1 LO:1 UP:4 LO:1 LE:4 LO:1 XX:2 LO:2 UP:2 XX:5 UP:1 LO:4 XX:4 LO:1",
  "XX:11 UP:10 LO:10 LE:3 UP:1 LO:1 LE:4 XX:17F CL:4 XX:1D CL:2 XX:18B UP:1A LO:1A XX:271 CL:6",
  "XX:7 CL:E XX:4F CL:2 XX:1F CL:A XX:193 CL:16 XX:3F CL:4 XX:20 CL:2 XX:202 UP:30 LO:30 UP:1",
  "LO:1 UP:3 LO:2 UP:1 LO:1 UP:1 LO:1 UP:1 LO:1 UP:4 LO:1 UP:1 LO:2 UP:1 LO:8 UP:3 LO:1 UP:1",
  "LO:1 UP:1 LO:1 UP:1 LO:1 UP:1 LO:1 UP:1 LO:1 UP:1 LO:1 UP:1 LO:1 UP:1 LO:1 UP:1 LO:1 UP:1",
  "LO:1 UP:1 LO:1 UP:1 LO:1 UP:1 LO:1 UP:1 LO:1 UP:1 LO:1 UP:1 LO:1 UP:1 LO:1 UP:1 LO:1 UP:1",
  "LO:1 UP:1 LO:1 UP:1 LO:1 UP:1 LO:1 UP:1 LO:1 UP:1 LO:1 UP:1 LO:1 UP:1 LO:1 UP:1 LO:1 UP:1",
  "LO:1 UP:1 LO:1 UP:1 LO:1 UP:1 LO:1 UP:1 LO:1 UP:1 LO:1 UP:1 LO:1 UP:1 LO:1 UP:1 LO:1 UP:1",
  "LO:1 UP:1 LO:1 UP:1 LO:1 UP:1 LO:1 UP:1 LO:1 UP:1 LO:1 UP:1 LO:1 UP:1 LO:1 UP:1 LO:1 UP:1",
  "LO:1 UP:1 LO:1 UP:1 LO:1 UP:1 LO:2 XX:6 UP:1 LO:1 UP:1 LO:1 EX:3 UP:1 LO:1 XX:5 ST:3 XX:4",
  "LO:26 XX:1 LO:1 XX:5 LO:1 XX:2 LE:38 XX:7 LE:1 XX:F EX:1 LE:17 XX:9 LE:7 XX:1 LE:7 XX:1 LE:7",
  "XX:1 LE:7 XX:1 LE:7 XX:1 LE:7 XX:1 LE:7 XX:1 LE:7 XX:1 EX:20 CL:E XX:E CL:2 XX:2 CL:A XX:4",
  "ST:1 LE:1 XX:C ST:1 XX:5 CL:1 XX:10 ST:2 CL:8 XX:1A3 SP:1 SC:1 ST:1 XX:2 LE:3 CL:A XX:2 CL:8",
  "XX:1 CL:3 XX:1 LE:9 EX:6 XX:1 LE:5 XX:2 LE:5 XX:4 LE:56 XX:2 EX:2 XX:2 LE:3 XX:1 LE:5A XX:1",
  "LE:4 XX:5 LE:2B XX:1 LE:5E XX:11 LE:20 XX:30 LE:10 XX:200 LE:19C0 XX:40 LE:568D XX:43 LE:2E",
  "XX:1 ST:1 LE:10D XX:1 ST:2 LE:10 NU:A LE:2 XX:14 UP:1 LO:1 UP:1 LO:1 UP:1 LO:1 UP:1 LO:1",
  "UP:1 LO:1 UP:1 LO:1 UP:1 LO:1 UP:1 LO:1 UP:1 LO:1 UP:1 LO:1 UP:1 LO:1 UP:1 LO:1 UP:1 LO:1",
  "UP:1 LO:1 UP:1 LO:1 UP:1 LO:1 UP:1 LO:1 UP:1 LO:1 UP:1 LO:1 UP:1 LO:1 UP:1 LO:1 UP:1 LO:1",
  "UP:1 LO:1 LE:1 EX:4 XX:1 EX:A XX:1 LE:1 UP:1 LO:1 UP:1 LO:1 UP:1 LO:1 UP:1 LO:1 UP:1 LO:1",
  "UP:1 LO:1 UP:1 LO:1 UP:1 LO:1 UP:1 LO:1 UP:1 LO:1 UP:1 LO:1 UP:1 LO:1 UP:1 LO:1 UP:1 LO:3",
  "EX:2 LE:50 EX:2 XX:1 ST:1 XX:3 ST:1 XX:1F LE:9 XX:2 UP:1 LO:1 UP:1 LO:1 UP:1 LO:1 UP:1 LO:1",
  "UP:1 LO:1 UP:1 LO:1 UP:1 LO:3 UP:1 LO:1 UP:1 LO:1 UP:1 LO:1 UP:1 LO:1 UP:1 LO:1 UP:1 LO:1",
  "UP:1 LO:1 UP:1 LO:1 UP:1 LO:1 UP:1 LO:1 UP:1 LO:1 UP:1 LO:1 UP:1 LO:1 UP:1 LO:1 UP:1 LO:1",
  "UP:1 LO:1 UP:1 LO:1 UP:1 LO:1 UP:1 LO:1 UP:1 LO:1 UP:1 LO:1 UP:1 LO:1 UP:1 LO:1 UP:1 LO:1",
  "UP:1 LO:1 UP:1 LO:1 UP:1 LO:1 UP:1 LO:1 UP:1 LO:1 UP:1 LO:1 UP:1 LO:A UP:1 LO:1 UP:1 LO:1",
  "UP:2 LO:1 UP:1 LO:1 UP:1 LO:1 UP:1 LO:1 UP:1 LO:1 LE:1 XX:2 UP:1 LO:1 UP:1 LO:1 LE:1 UP:1",
  "LO:1 UP:1 LO:3 UP:1 LO:1 UP:1 LO:1 UP:1 LO:1 UP:1 LO:1 UP:1 LO:1 UP:1 LO:1 UP:1 LO:1 UP:1",
  "LO:1 UP:1 LO:1 UP:1 LO:1 UP:5 LO:1 UP:5 LO:1 UP:1 LO:1 UP:1 LO:1 UP:1 LO:1 UP:1 LO:1 UP:1",
  "LO:1 UP:1 LO:1 UP:1 LO:1 UP:4 LO:1 UP:1 LO:1 UP:2 LO:1 XX:2 UP:1 LO:1 XX:1 LO:1 XX:1 LO:1",
  "UP:1 LO:1 UP:1 LO:1 UP:1 LO:1 UP:1 XX:15 LO:3 UP:1 LO:1 LE:1 LO:3 LE:7 EX:1 LE:3 EX:1 LE:4",
  "EX:1 LE:17 EX:5 XX:4 EX:1 XX:13 LE:34 XX:2 ST:2 XX:8 EX:2 LE:32 EX:12 XX:8 ST:2 NU:A XX:6",
  "EX:12 LE:6 XX:3 LE:1 XX:1 LE:2 EX:1 NU:A LE:1C EX:8 XX:1 ST:1 LE:17 EX:D XX:C LE:1D XX:3",
  "EX:4 LE:2F EX:E XX:7 ST:2 XX:5 LE:1 NU:A XX:6 LE:5 EX:1 LE:A NU:A LE:5 XX:1 LE:29 EX:E XX:9",
  "LE:3 EX:1 LE:8 EX:2 XX:2 NU:A XX:3 ST:3 LE:17 XX:3 LE:1 EX:3 LE:32 EX:1 LE:1 EX:3 LE:2 EX:2",
  "LE:5 EX:2 LE:1 EX:1 LE:1 XX:18 LE:3 XX:2 LE:B EX:5 ST:2 LE:3 EX:2 XX:A LE:6 XX:2 LE:6 XX:2",
  "LE:6 XX:9 LE:7 XX:1 LE:7 XX:1 LO:2B XX:1 LO:E XX:6 LO:50 LE:23 EX:8 ST:1 EX:2 XX:2 NU:A XX:6",
  "LE:2BA4 XX:C LE:17 XX:4 LE:31 XX:2104 LE:16E XX:2 LE:6A XX:26 LO:7 XX:C LO:5 XX:5 LE:1 EX:1",
  "LE:A XX:1 LE:D XX:1 LE:5 XX:1 LE:1 XX:1 LE:2 XX:1 LE:2 XX:1 LE:6C XX:21 LE:16B CL:2 XX:10",
  "LE:40 XX:2 LE:36 XX:28 LE:C XX:4 EX:10 SC:2 ST:1 SC:2 ST:2 CL:2 XX:7 EX:10 XX:1 SC:2 XX:2",
  "CL:10 XX:2 CL:2 XX:7 SC:2 AT:1 XX:1 SC:2 ST:2 SC:1 CL:6 XX:4 SC:1 XX:C LE:5 XX:1 LE:87 XX:2",
  "FO:1 XX:1 ST:1 XX:6 CL:2 XX:2 SC:2 AT:1 XX:1 NU:A SC:2 XX:3 ST:1 XX:1 UP:1A CL:1 XX:1 CL:1",
  "XX:3 LO:1A CL:1 XX:1 CL:1 XX:1 CL:2 ST:1 CL:2 SC:1 XX:1 LE:38 EX:2 LE:1F XX:3 LE:6 XX:2 LE:6",
  "XX:2 LE:6 XX:2 LE:3 XX:1C FO:3 XX:4 LE:C XX:1 LE:1A XX:1 LE:13 XX:1 LE:2 XX:1 LE:F XX:2 LE:E",
  "XX:22 LE:7B XX:45 LE:35 XX:88 EX:1 XX:82 LE:1D XX:3 LE:31 XX:F EX:1 XX:1F LE:20 XX:D LE:1E",
  "XX:5 LE:26 EX:5 XX:5 LE:1E XX:2 LE:24 XX:4 LE:8 XX:1 LE:5 XX:2A UP:28 LO:28 LE:4E XX:2 NU:A",
  "XX:6 UP:24 XX:4 LO:24 XX:4 LE:28 XX:8 LE:34 XX:C UP:B XX:1 UP:F XX:1 UP:7 XX:1 UP:2 XX:1",
  "LO:B XX:1 LO:F XX:1 LO:7 XX:1 LO:2 XX:3 LE:34 XX:C LE:137 XX:9 LE:16 XX:A LE:8 XX:18 LO:1",
  "LE:2 LO:3 XX:1 LO:2A XX:1 LO:9 XX:45 LE:6 XX:2 LE:1 XX:1 LE:2C XX:1 LE:2 XX:3 LE:1 XX:2",
  "LE:17 XX:A LE:17 XX:9 LE:1F XX:41 LE:13 XX:1 LE:2 XX:A LE:16 XX:A LE:1A XX:46 LE:38 XX:6",
  "LE:2 XX:40 LE:1 EX:3 XX:1 EX:2 XX:5 EX:4 LE:4 XX:1 LE:3 XX:1 LE:1D XX:2 EX:3 XX:4 EX:1 XX:16",
  "ST:2 XX:8 LE:1D XX:3 LE:1D XX:23 LE:8 XX:1 LE:1C EX:2 XX:19 LE:36 XX:A LE:16 XX:A LE:13 XX:D",
  "LE:12 XX:6E LE:49 XX:37 UP:33 XX:D LO:33 XX:D LE:24 EX:4 XX:8 NU:A XX:6 NU:A LE:6 UP:16 XX:3",
  "EX:5 XX:1 LE:1 LO:16 XX:FA LE:2A XX:1 EX:2 XX:3 LE:2 XX:10 LE:3 XX:37 EX:4 LE:1D XX:A LE:1",
  "XX:8 LE:16 EX:B XX:4 ST:5 XX:16 LE:12 EX:4 ST:4 XX:26 LE:15 XX:1B LE:17 XX:9 EX:3 LE:35 EX:F",
  "ST:2 XX:1D NU:A EX:1 LE:2 EX:2 LE:1 XX:9 EX:4 LE:2D EX:B XX:2 NU:1 ST:4 EX:1 XX:A NU:1 XX:2",
  "LE:19 XX:7 NU:A XX:6 EX:3 LE:24 EX:E XX:1 NU:A XX:1 ST:3 LE:1 EX:2 LE:1 XX:8 LE:23 EX:1 XX:2",
  "LE:1 XX:9 EX:3 LE:30 EX:E LE:4 ST:2 XX:2 EX:4 ST:1 EX:2 NU:A LE:1 XX:1 LE:1 XX:1 ST:2 XX:20",
  "LE:12 XX:1 LE:19 EX:C ST:2 XX:1 ST:2 XX:1 EX:1 LE:2 EX:1 XX:3E LE:7 XX:1 LE:1 XX:1 LE:4 XX:1",
  "LE:F XX:1 LE:A ST:1 XX:6 LE:2F EX:C XX:5 NU:A XX:6 EX:4 XX:1 LE:8 XX:2 LE:2 XX:2 LE:16 XX:1",
  "LE:7 XX:1 LE:2 XX:1 LE:5 XX:1 EX:2 LE:1 EX:7 XX:2 EX:2 XX:2 EX:3 XX:2 LE:1 XX:6 EX:1 XX:5",
  "LE:5 EX:2 XX:2 EX:7 XX:3 EX:5 XX:B LE:A XX:1 LE:1 XX:2 LE:1 XX:1 LE:26 XX:1 LE:1 EX:9 XX:1",
  "EX:1 XX:2 EX:1 XX:1 EX:4 XX:1 EX:5 LE:1 EX:1 LE:1 ST:2 XX:B EX:2 XX:1D LE:35 EX:12 LE:4 ST:2",
  "XX:3 NU:A XX:4 EX:1 LE:3 XX:1E LE:30 EX:14 LE:2 XX:1 LE:1 XX:8 NU:A XX:A6 LE:2F EX:7 XX:2",
  "EX:9 XX:1 ST:2 XX:5 ST:F LE:4 EX:2 XX:22 LE:30 EX:11 ST:2 XX:1 LE:1 XX:B NU:A XX:26 LE:2B",
  "EX:D LE:1 XX:7 NU:A XX:6 NU:14 XX:1C LE:1B XX:2 EX:F XX:4 NU:A XX:2 ST:3 XX:1 LE:7 XX:B9",
  "LE:2C EX:F XX:65 UP:20 LO:20 NU:A XX:15 LE:8 XX:2 LE:1 XX:2 LE:8 XX:1 LE:2 XX:1 LE:18 EX:6",
  "XX:1 EX:2 XX:2 EX:4 LE:1 EX:1 LE:1 EX:2 ST:1 XX:1 ST:1 XX:9 NU:A XX:46 LE:8 XX:2 LE:27 EX:7",
  "XX:2 EX:7 LE:1 XX:1 LE:1 EX:1 XX:1B LE:1 EX:A LE:28 EX:7 LE:1 EX:4 XX:3 ST:2 XX:3 EX:1 XX:8",
  "LE:1 EX:B LE:2E EX:10 XX:1 ST:2 LE:1 XX:12 LE:49 XX:C7 LE:21 XX:F NU:A XX:6 LE:9 XX:1 LE:25",
  "EX:8 XX:1 EX:8 LE:1 ST:2 XX:D NU:A XX:18 LE:1E XX:2 EX:16 XX:1 EX:E XX:49 LE:7 XX:1 LE:2",
  "XX:1 LE:26 EX:6 XX:3 EX:1 XX:1 EX:2 XX:1 EX:7 LE:1 EX:1 XX:8 NU:A XX:6 LE:6 XX:1 LE:2 XX:1",
  "LE:20 EX:5 XX:1 EX:2 XX:1 EX:5 LE:1 XX:7 NU:A XX:136 LE:13 EX:4 ST:2 XX:7 EX:2 LE:1 EX:1",
  "LE:D XX:1 LE:22 EX:7 XX:3 EX:5 ST:2 XX:B NU:A EX:1 XX:55 LE:1 XX:4F LE:39A XX:66 LE:6F XX:11",
  "LE:C4 XX:A4C LE:61 XX:F LE:430 FO:10 EX:1 LE:6 EX:F XX:A LE:F9B XX:5 LE:247 XX:1AB9 LE:1E",
  "EX:12 NU:A XX:6C6 LE:239 XX:7 LE:1F XX:1 NU:A XX:4 ST:2 LE:4F XX:1 NU:A XX:6 LE:1E XX:2 EX:5",
  "ST:1 XX:A LE:30 EX:7 ST:2 XX:7 LE:4 ST:1 XX:B NU:A XX:9 LE:15 XX:5 LE:13 XX:1B0 LE:2D XX:1",
  "ST:2 NU:A XX:C6 UP:20 LO:20 XX:18 ST:1 XX:67 LE:4B XX:4 EX:1 LE:1 EX:37 XX:7 EX:4 LE:D XX:40",
  "LE:2 XX:1 LE:1 EX:1 XX:B EX:2 XX:E LE:17F8 XX:8 LE:4D6 XX:29 LE:A XX:22E7 LE:4 XX:1 LE:7",
  "XX:1 LE:2 XX:1 LE:123 XX:F LE:1 XX:1D LE:3 XX:2 LE:1 XX:E LE:4 XX:8 LE:18C XX:904 LE:6B XX:5",
  "LE:D XX:3 LE:9 XX:7 LE:A XX:3 EX:2 ST:1 FO:4 XX:104C NU:A XX:206 EX:2E XX:2 EX:17 XX:21E",
  "EX:5 XX:3 EX:6 FO:8 EX:8 XX:2 EX:7 XX:1E EX:4 XX:94 EX:3 XX:1BB UP:1A LO:1A UP:1A LO:7 XX:1",
  "LO:12 UP:1A LO:1A UP:1 XX:1 UP:2 XX:2 UP:1 XX:2 UP:2 XX:2 UP:4 XX:1 UP:8 LO:4 XX:1 LO:1 XX:1",
  "LO:7 XX:1 LO:B UP:1A LO:1A UP:2 XX:1 UP:4 XX:2 UP:8 XX:1 UP:7 XX:1 LO:1A UP:2 XX:1 UP:4 XX:1",
  "UP:5 XX:1 UP:1 XX:3 UP:7 XX:1 LO:1A UP:1A LO:1A UP:1A LO:1A UP:1A LO:1A UP:1A LO:1A UP:1A",
  "LO:1A UP:1A LO:1C XX:2 UP:19 XX:1 LO:19 XX:1 LO:6 UP:19 XX:1 LO:19 XX:1 LO:6 UP:19 XX:1",
  "LO:19 XX:1 LO:6 UP:19 XX:1 LO:19 XX:1 LO:6 UP:19 XX:1 LO:19 XX:1 LO:6 UP:1 LO:1 XX:2 NU:32",
  "XX:200 EX:37 XX:4 EX:32 XX:8 EX:1 XX:E EX:1 XX:3 ST:1 XX:12 EX:5 XX:1 EX:F XX:450 LO:A LE:1",
  "LO:14 XX:6 LO:6 XX:D5 EX:7 XX:1 EX:11 XX:2 EX:7 XX:1 EX:2 XX:1 EX:5 XX:5 LO:3E XX:21 EX:1",
  "XX:70 LE:2D XX:3 EX:7 LE:7 XX:2 NU:A XX:4 LE:1 XX:141 LE:1E EX:1 XX:11 LE:2C EX:4 NU:A",
  "XX:1D6 LE:1C EX:4 NU:A XX:D6 LE:1E EX:2 LE:1 NU:A XX:1E5 LE:7 XX:1 LE:4 XX:1 LE:2 XX:1 LE:F",
  "XX:1 LE:C5 XX:B EX:7 XX:29 UP:22 LO:22 EX:7 LE:1 XX:4 NU:A XX:4A6 LE:4 XX:1 LE:1B XX:1 LE:2",
  "XX:1 LE:1 XX:2 LE:1 XX:1 LE:A XX:1 LE:4 XX:1 LE:1 XX:1 LE:1 XX:6 LE:1 XX:4 LE:1 XX:1 LE:1",
  "XX:1 LE:1 XX:1 LE:3 XX:1 LE:2 XX:1 LE:1 XX:2 LE:1 XX:1 LE:1 XX:1 LE:1 XX:1 LE:1 XX:1 LE:1",
  "XX:1 LE:2 XX:1 LE:1 XX:2 LE:4 XX:1 LE:7 XX:1 LE:4 XX:1 LE:4 XX:1 LE:1 XX:1 LE:A XX:1 LE:11",
  "XX:5 LE:3 XX:1 LE:5 XX:1 LE:11 XX:274 UP:1A XX:6 UP:1A XX:6 UP:1A XX:4EC CL:3 XX:577 NU:A",
  "XX:406 LE:A6E0 XX:20 LE:103A XX:6 LE:DE XX:2 LE:1682 XX:E LE:1D31 XX:F LE:26E XX:9A2 LE:21E",
  "XX:5E2 LE:134B XX:5 LE:1060 XX:ADC51 FO:1 XX:1E EX:60 XX:80 EX:F0 XX:2FE10"]

end SelectorGuard.Unicode
