/-!
# Runs of the Age property

The code space is cut into maximal runs of code points assigned in the same version of the
standard. An entry "3.0:2" stands for two code points assigned in version 3.0, and the label NA
marks code points that no version has assigned.
-/

namespace SelectorGuard.Unicode

/-- Version that assigned each code point, as runs in code point order. -/
def ageRuns : List String := [
  "1.1:1F6 3.0:4 1.1:1E 3.0:8 3.2:1 4.0:1 3.0:12 4.0:3 4.1:B 5.0:E 1.1:59 3.0:5 4.0:2 1.1:2F",
  "3.0:1 1.1:A 3.0:5 4.0:11 1.1:46 3.0:9 3.2:1 4.0:8 4.1:5 4.0:3 1.1:2 3.0:1 3.2:D 5.1:4 1.1:2",
  "5.1:2 NA:2 1.1:1 5.0:3 1.1:1 7.0:1 NA:4 1.1:7 NA:1 1.1:1 NA:1 1.1:14 NA:1 1.1:2C 5.1:1 1.1:7",
  "3.0:1 3.2:2 1.1:1 3.0:1 1.1:1 3.0:1 1.1:1 3.0:1 1.1:1 3.0:1 1.1:12 3.1:2 3.2:1 4.0:5 4.1:4",
  "3.0:1 1.1:C 3.0:1 1.1:42 3.0:1 1.1:C 3.0:1 1.1:29 5.1:1 3.0:2 3.2:2 3.0:4 1.1:35 3.2:2 1.1:2",
  "3.2:2 1.1:2 3.2:2 5.0:1 1.1:1C 3.0:2 1.1:8 4.1:2 1.1:2 5.0:6 3.2:10 5.0:4 5.1:10 5.2:2 6.0:2",
  "7.0:8 NA:1 1.1:26 NA:2 1.1:7 11.0:1 1.1:27 11.0:1 1.1:1 3.0:1 NA:2 7.0:2 6.1:1 NA:1 2.0:11",
  "4.1:1 2.0:D 1.1:A 5.0:1 1.1:9 2.0:1 4.1:3 NA:8 1.1:1B NA:4 11.0:1 1.1:5 NA:B 4.0:4 6.1:1",
  "7.0:1 5.1:5 4.1:1 1.1:1 4.0:9 5.1:5 1.1:1 6.3:1 14.0:1 4.1:1 1.1:1 6.0:1 1.1:1A 5.1:5 1.1:13",
  "3.0:3 4.0:3 4.1:6 6.0:1 1.1:E 3.2:2 1.1:48 3.0:2 1.1:5 3.0:1 1.1:F 3.0:1 1.1:1E 4.0:2 1.1:A",
  "3.0:5 4.0:1 3.0:E NA:1 3.0:1E 4.0:3 3.0:1B NA:2 4.0:3 4.1:1E 5.1:12 3.0:31 3.2:1 NA:E 5.0:3B",
  "NA:2 11.0:3 5.2:2E NA:2 5.2:F NA:1 6.0:1C NA:2 6.0:1 NA:1 10.0:B NA:5 14.0:1F NA:1 14.0:2",
  "NA:5 16.0:1 14.0:8 6.1:1 7.0:1 6.1:B 7.0:6 8.0:2 14.0:1 9.0:8 13.0:A 14.0:B 11.0:1 9.0:F",
  "8.0:1 6.1:1B 7.0:1 5.2:1 1.1:3 4.0:1 1.1:35 6.0:2 1.1:12 5.2:1 6.0:1 1.1:5 5.2:1 6.0:2",
  "1.1:19 5.1:2 6.0:5 7.0:1 5.2:2 5.0:2 4.1:1 5.0:2 7.0:1 1.1:3 NA:1 1.1:8 NA:2 1.1:2 NA:2",
  "1.1:16 NA:1 1.1:7 NA:1 1.1:1 NA:3 1.1:4 NA:2 1.1:1 4.0:1 1.1:7 NA:2 1.1:2 NA:2 1.1:3 4.1:1",
  "NA:8 1.1:1 NA:4 1.1:2 NA:1 1.1:5 NA:2 1.1:15 5.2:1 10.0:2 11.0:1 NA:2 4.0:1 1.1:1 4.0:1 NA:1",
  "1.1:6 NA:4 1.1:2 NA:2 1.1:16 NA:1 1.1:7 NA:1 1.1:2 NA:1 1.1:2 NA:1 1.1:2 NA:2 1.1:1 NA:1",
  "1.1:5 NA:4 1.1:2 NA:2 1.1:3 NA:3 5.1:1 NA:7 1.1:4 NA:1 1.1:1 NA:7 1.1:F 5.1:1 11.0:1 NA:A",
  "1.1:3 NA:1 1.1:7 4.0:1 1.1:1 NA:1 1.1:3 NA:1 1.1:16 NA:1 1.1:7 NA:1 1.1:2 NA:1 1.1:5 NA:2",
  "1.1:A NA:1 1.1:3 NA:1 1.1:3 NA:2 1.1:1 NA:F 1.1:1 4.0:3 NA:2 1.1:A 6.1:1 4.0:1 NA:7 8.0:1",
  "10.0:6 NA:1 1.1:3 NA:1 1.1:8 NA:2 1.1:2 NA:2 1.1:16 NA:1 1.1:7 NA:1 1.1:2 NA:1 4.0:1 1.1:4",
  "NA:2 1.1:8 5.1:1 NA:2 1.1:2 NA:2 1.1:3 NA:7 13.0:1 1.1:2 NA:4 1.1:2 NA:1 1.1:3 5.1:2 NA:2",
  "1.1:B 4.0:1 6.0:6 NA:A 1.1:2 NA:1 1.1:6 NA:3 1.1:3 NA:1 1.1:4 NA:3 1.1:2 NA:1 1.1:1 NA:1",
  "1.1:2 NA:3 1.1:2 NA:3 1.1:3 NA:3 1.1:8 4.1:1 1.1:3 NA:4 1.1:5 NA:3 1.1:3 NA:1 1.1:4 NA:2",
  "5.1:1 NA:6 1.1:1 NA:E 4.1:1 1.1:C 4.0:8 NA:5 7.0:1 1.1:3 11.0:1 1.1:8 NA:1 1.1:3 NA:1 1.1:17",
  "NA:1 1.1:A 7.0:1 1.1:5 NA:2 14.0:1 5.1:1 1.1:7 NA:1 1.1:3 NA:1 1.1:4 NA:7 1.1:2 NA:1 5.1:2",
  "8.0:1 NA:2 14.0:1 NA:2 1.1:2 5.1:2 NA:2 1.1:A NA:7 12.0:1 5.1:8 9.0:1 7.0:1 1.1:2 11.0:1",
  "1.1:8 NA:1 1.1:3 NA:1 1.1:17 NA:1 1.1:A NA:1 1.1:5 NA:2 4.0:2 1.1:7 NA:1 1.1:3 NA:1 1.1:4",
  "NA:7 1.1:2 NA:6 14.0:1 1.1:1 NA:1 1.1:2 5.0:2 NA:2 1.1:A NA:1 5.0:2 15.0:1 NA:C 10.0:1 7.0:1",
  "1.1:2 13.0:1 1.1:8 NA:1 1.1:3 NA:1 1.1:17 6.0:1 1.1:10 6.0:1 10.0:2 5.1:1 1.1:6 5.1:1 NA:1",
  "1.1:3 NA:1 1.1:4 6.0:1 9.0:1 NA:4 9.0:3 1.1:1 9.0:7 8.0:1 1.1:2 5.1:2 NA:2 1.1:A 5.1:6 9.0:3",
  "5.1:7 NA:1 13.0:1 3.0:2 NA:1 3.0:12 NA:3 3.0:18 NA:1 3.0:9 NA:1 3.0:1 NA:2 3.0:7 NA:3 3.0:1",
  "NA:4 3.0:6 NA:1 3.0:1 NA:1 3.0:8 NA:6 7.0:A NA:2 3.0:3 NA:C 1.1:3A NA:4 1.1:1D NA:25 1.1:2",
  "NA:1 1.1:1 NA:1 12.0:1 1.1:2 12.0:1 1.1:1 NA:1 12.0:1 1.1:1 12.0:6 1.1:4 12.0:1 1.1:7 12.0:1",
  "1.1:3 NA:1 1.1:1 NA:1 1.1:1 12.0:2 1.1:2 12.0:1 1.1:D 12.0:1 1.1:3 NA:2 1.1:5 NA:1 1.1:1",
  "NA:1 1.1:6 15.0:1 NA:1 1.1:A NA:2 1.1:2 6.1:2 NA:20 2.0:48 NA:1 2.0:21 3.0:1 5.1:2 NA:4",
  "2.0:1B 6.0:4 2.0:6 3.0:1 2.0:1 NA:1 2.0:15 3.0:3 2.0:7 3.0:1 2.0:1 3.0:3 NA:1 3.0:F NA:1",
  "5.1:1 3.0:1 4.1:2 5.1:3 5.2:4 6.0:2 NA:25 3.0:22 5.1:1 3.0:5 5.1:1 3.0:2 5.1:1 3.0:7 5.1:3",
  "3.0:4 5.1:6 3.0:1A 5.1:40 5.2:4 5.1:2 1.1:26 NA:1 6.1:1 NA:5 6.1:1 NA:2 1.1:27 3.2:2 4.1:2",
  "1.1:1 4.1:1 6.1:3 1.1:5A 5.2:5 1.1:44 5.2:5 1.1:52 5.2:6 3.0:7 4.1:1 3.0:3F 4.1:1 3.0:1 NA:1",
  "3.0:4 NA:2 3.0:7 NA:1 3.0:1 NA:1 3.0:4 NA:2 3.0:27 4.1:1 3.0:1 NA:1 3.0:4 NA:2 3.0:1F 4.1:1",
  "3.0:1 NA:1 3.0:4 NA:2 3.0:7 NA:1 3.0:1 NA:1 3.0:4 NA:2 3.0:7 4.1:1 3.0:7 NA:1 3.0:17 4.1:1",
  "3.0:1F 4.1:1 3.0:1 NA:1 3.0:4 NA:2 3.0:7 4.1:1 3.0:27 4.1:1 3.0:13 NA:2 6.0:2 4.1:2 3.0:1C",
  "NA:3 4.1:1A NA:6 3.0:55 8.0:1 NA:2 8.0:6 NA:2 5.2:1 3.0:276 5.2:9 3.0:1D NA:3 3.0:51 7.0:8",
  "NA:7 3.2:D 14.0:1 3.2:7 14.0:1 NA:9 14.0:1 3.2:17 NA:9 3.2:14 NA:C 3.2:D NA:1 3.2:3 NA:1",
  "3.2:2 NA:C 3.0:5D 4.0:1 NA:2 3.0:A NA:6 4.0:A NA:6 3.0:F 14.0:1 3.0:A NA:6 3.0:58 11.0:1",
  "NA:7 3.0:2A 5.1:1 NA:5 5.2:46 NA:A 4.0:1D 7.0:2 NA:1 4.0:C NA:4 4.0:C NA:4 4.0:1 NA:3 4.0:2A",
  "NA:2 4.0:5 NA:B 4.1:2A 5.2:2 NA:4 4.1:1A NA:6 4.1:A 5.2:1 NA:3 4.1:2 4.0:20 4.1:1C NA:2",
  "4.1:2 5.2:3F NA:1 5.2:1D NA:2 5.2:B NA:6 5.2:A NA:6 5.2:E NA:2 7.0:F 13.0:2 14.0:E NA:31",
  "5.0:4C 14.0:1 NA:1 16.0:2 5.0:2D 14.0:2 16.0:1 5.1:2B 6.1:3 5.1:C 6.1:6 6.0:34 NA:8 6.0:4",
  "5.1:38 NA:3 5.1:F NA:3 5.1:33 9.0:9 16.0:2 NA:5 11.0:2B NA:2 11.0:3 6.1:8 NA:8 5.2:23 6.1:4",
  "10.0:1 7.0:2 12.0:1 NA:5 4.0:6C 4.1:58 5.0:7 5.1:1C 7.0:F 10.0:4 14.0:1 9.0:1 6.0:1 5.2:1",
  "5.0:2 1.1:9B 2.0:1 5.1:4 1.1:5A 5.1:6 1.1:16 NA:2 1.1:6 NA:2 1.1:26 NA:2 1.1:6 NA:2 1.1:8",
  "NA:1 1.1:1 NA:1 1.1:1 NA:1 1.1:1 NA:1 1.1:1F NA:2 1.1:35 NA:1 1.1:F NA:1 1.1:E NA:2 1.1:6",
  "NA:1 1.1:13 NA:2 1.1:3 NA:1 1.1:9 NA:1 1.1:2F 3.0:1 1.1:17 3.2:1 3.0:6 3.2:5 4.0:2 4.1:2",
  "3.2:1 4.1:7 3.2:5 5.1:1 NA:1 6.3:4 1.1:7 3.2:1 NA:2 1.1:1B NA:1 4.1:5 6.0:8 NA:3 1.1:B 2.0:1",
  "2.1:1 3.0:3 3.2:2 4.1:4 5.2:3 6.0:1 6.2:1 7.0:3 8.0:1 10.0:1 14.0:1 NA:F 1.1:12 3.0:2 3.2:7",
  "4.1:1 5.0:4 5.1:1 NA:F 1.1:39 3.0:2 4.0:1 4.1:1 3.2:F 4.1:1 5.0:2 5.1:1 5.2:3 1.1:30 3.0:1",
  "5.0:1 5.1:4 5.2:1 8.0:2 NA:4 1.1:5B 3.0:9 3.2:C 1.1:F2 3.2:E 1.1:1 3.0:1 1.1:79 3.0:1 3.2:1",
  "3.0:1E 3.2:34 4.0:2 4.1:B 5.0:C 5.2:1 6.0:B 7.0:7 9.0:4 10.0:1 1.1:25 3.0:2 16.0:3 NA:16",
  "1.1:B NA:15 1.1:8B 3.2:14 4.0:1 1.1:96 3.2:A 1.1:50 3.0:8 3.2:8 1.1:14 4.0:2 3.2:2 4.1:1",
  "3.0:1 1.1:56 3.0:2 3.2:C 4.1:2 3.2:A 4.0:8 4.1:B 5.1:1 5.2:2 4.0:2 4.1:10 5.0:1 5.1:A 5.2:3",
  "5.1:4 5.2:A 6.0:1 5.2:13 6.0:1 5.2:1 6.0:4 5.2:18 7.0:1 1.1:4 6.0:1 1.1:4 6.0:2 1.1:1C 6.0:1",
  "1.1:23 6.0:1 1.1:1 6.0:1 1.1:4 6.0:3 1.1:1 5.2:1 1.1:7 6.0:2 1.1:7 3.2:E 1.1:1F 6.0:3 1.1:18",
  "6.0:1 1.1:E 6.0:1 4.1:7 5.0:4 6.1:1 5.1:1 6.1:1 6.0:2 3.2:1C 5.1:4 3.2:10 3.0:100 3.2:200",
  "4.0:E 4.1:6 5.0:7 5.1:5 5.0:4 5.1:29 7.0:3 5.1:5 5.2:5 7.0:1A NA:2 7.0:20 NA:1 13.0:1 7.0:22",
  "11.0:3 7.0:C 12.0:1 7.0:8 10.0:1 11.0:19 8.0:4 11.0:F 12.0:1 4.1:2F 14.0:1 4.1:2F 14.0:1",
  "5.0:D 5.1:3 5.2:1 5.1:3 5.0:4 5.1:6 5.2:2 4.1:6B 5.2:7 6.1:2 NA:5 4.1:2D NA:1 6.1:1 NA:5",
  "6.1:1 NA:2 4.1:36 6.1:2 NA:7 4.1:1 6.0:1 NA:E 6.0:1 4.1:17 NA:9 4.1:7 NA:1 4.1:7 NA:1 4.1:7",
  "NA:1 4.1:7 NA:1 4.1:7 NA:1 4.1:7 NA:1 4.1:7 NA:1 4.1:7 NA:1 5.1:20 4.1:18 5.1:4 4.1:2 5.1:13",
  "5.2:1 6.1:A 7.0:7 9.0:2 10.0:5 11.0:5 12.0:1 13.0:3 14.0:B NA:22 3.0:1A NA:1 3.0:59 NA:C",
  "3.0:D6 NA:1A 3.0:C 15.1:4 1.1:38 3.0:3 3.2:3 3.0:1 1.1:1 NA:1 1.1:54 3.2:2 NA:2 1.1:6 3.2:2",
  "1.1:5E 3.2:1 NA:5 1.1:28 5.1:1 10.0:1 11.0:1 NA:1 1.1:5E NA:1 1.1:10 3.0:18 6.0:3 13.0:5",
  "4.1:10 5.1:14 16.0:2 NA:9 15.1:1 3.2:10 1.1:1D 4.0:2 NA:1 1.1:24 5.2:C 4.0:1 3.2:F 1.1:1C",
  "4.0:2 4.1:1 1.1:32 3.2:F 1.1:C 4.0:4 1.1:2F 12.1:1 1.1:77 4.0:4 1.1:63 4.0:2 1.1:1F 4.0:1",
  "3.0:19B6 13.0:A 4.0:40 1.1:51A6 4.1:16 5.1:8 5.2:8 6.1:1 8.0:9 10.0:15 11.0:5 13.0:D 14.0:3",
  "3.0:48D NA:3 3.0:12 3.2:2 3.0:10 3.2:1 3.0:C 3.2:1 3.0:3 3.2:1 3.0:1 NA:9 5.2:30 5.1:12C",
  "NA:14 5.1:20 6.0:2 5.1:12 6.1:8 5.1:1C 7.0:6 8.0:1 6.1:1 5.2:58 NA:8 4.1:17 5.0:4 5.1:5",
  "5.0:2 5.1:6B 6.0:2 8.0:1 6.0:2 6.1:2 7.0:C 6.0:A 6.1:1 7.0:3 9.0:1 11.0:1 7.0:2 8.0:6 11.0:2",
  "12.0:6 14.0:2 12.0:5 13.0:4 16.0:3 NA:2 14.0:2 NA:1 14.0:1 NA:1 14.0:5 16.0:3 NA:15 14.0:3",
  "13.0:2 7.0:1 6.1:2 6.0:1 5.1:5 4.1:2C 13.0:1 NA:3 5.2:A NA:6 5.0:38 NA:8 5.1:45 9.0:1 NA:8",
  "5.1:C NA:6 5.2:1C 8.0:2 11.0:2 5.1:54 NA:B 5.1:1 5.2:1D NA:3 5.2:4E NA:1 5.2:B NA:4 5.2:2",
  "7.0:1F NA:1 5.1:37 NA:9 5.1:E NA:2 5.1:A NA:2 5.1:4 5.2:1C 7.0:4 5.2:43 NA:18 5.2:5 6.1:17",
  "NA:A 6.0:6 NA:2 6.0:6 NA:2 6.0:6 NA:9 6.0:7 NA:1 6.0:7 NA:1 7.0:30 8.0:4 7.0:2 12.0:2 13.0:4",
  "NA:4 8.0:50 5.2:2E NA:2 5.2:A NA:6 2.0:2BA4 NA:C 5.2:17 NA:4 5.2:31 NA:804 1.1:1A2E 6.1:2",
  "3.2:3B 5.2:3 NA:2 4.1:6A NA:26 1.1:7 NA:C 1.1:5 NA:5 3.0:1 1.1:19 NA:1 1.1:5 NA:1 1.1:1 NA:1",
  "1.1:2 NA:1 1.1:2 NA:1 1.1:6C 6.0:10 14.0:1 NA:10 1.1:16D 14.0:10 1.1:40 NA:2 1.1:36 NA:7",
  "14.0:1 3.1:20 1.1:C 3.2:1 4.0:1 14.0:2 3.2:10 4.1:A NA:6 1.1:4 5.1:3 7.0:7 8.0:2 1.1:15",
  "3.2:2 4.0:2 1.1:A NA:1 1.1:13 NA:1 1.1:4 NA:4 1.1:3 3.2:1 1.1:1 NA:1 1.1:87 NA:2 1.1:1 NA:1",
  "1.1:5E 3.2:2 1.1:5E NA:3 1.1:6 NA:2 1.1:6 NA:2 1.1:6 NA:2 1.1:3 NA:3 1.1:7 NA:1 1.1:7 NA:A",
  "3.0:3 2.1:1 1.1:3 4.0:C NA:1 4.0:1A NA:1 4.0:13 NA:1 4.0:2 NA:1 4.0:F NA:2 4.0:E NA:22",
  "4.0:7B NA:5 4.0:3 NA:4 4.0:2D NA:3 4.0:9 4.1:4B 7.0:2 9.0:2 NA:1 5.1:C 13.0:1 NA:3 7.0:1",
  "NA:2F 5.1:2E NA:82 5.1:1D NA:3 5.1:31 NA:F 7.0:1C NA:4 3.1:1F 7.0:1 3.1:4 NA:9 10.0:3 3.1:1B",
  "NA:5 7.0:2B NA:5 4.0:1E NA:1 4.0:1 4.1:24 NA:4 4.1:E NA:2A 3.1:26 4.0:2 3.1:26 4.0:50 NA:2",
  "4.0:A NA:6 9.0:24 NA:4 9.0:24 NA:4 7.0:28 NA:8 7.0:34 NA:B 7.0:1 14.0:B NA:1 14.0:F NA:1",
  "14.0:7 NA:1 14.0:2 NA:1 14.0:B NA:1 14.0:F NA:1 14.0:7 NA:1 14.0:2 NA:3 16.0:34 NA:C 7.0:137",
  "NA:9 7.0:16 NA:A 7.0:8 NA:18 14.0:6 NA:1 14.0:2A NA:1 14.0:9 NA:45 4.0:6 NA:2 4.0:1 NA:1",
  "4.0:2C NA:1 4.0:2 NA:3 4.0:1 NA:2 4.0:1 5.2:16 NA:1 5.2:9 7.0:3F NA:8 7.0:9 NA:30 8.0:13",
  "NA:1 8.0:2 NA:5 8.0:5 5.0:1A 5.2:2 NA:3 5.0:1 5.1:1A NA:5 5.1:1 NA:40 6.1:38 NA:4 8.0:2",
  "6.1:2 8.0:10 NA:2 8.0:2E 4.1:4 NA:1 4.1:2 NA:5 4.1:8 NA:1 4.1:3 NA:1 4.1:1B 11.0:2 NA:2",
  "4.1:3 NA:4 4.1:9 11.0:1 NA:7 4.1:9 NA:7 5.2:20 7.0:20 NA:20 7.0:27 NA:4 7.0:C NA:9 5.2:36",
  "NA:3 5.2:1D NA:2 5.2:1B NA:5 5.2:8 7.0:12 NA:7 7.0:4 NA:C 7.0:7 NA:50 5.2:49 NA:37 8.0:33",
  "NA:D 8.0:33 NA:7 8.0:6 11.0:28 NA:8 11.0:A NA:6 16.0:26 NA:3 16.0:1D NA:8 16.0:2 NA:D0",
  "5.2:1F NA:1 13.0:2A NA:1 13.0:3 NA:2 13.0:2 NA:10 16.0:3 NA:37 16.0:1 15.0:3 11.0:28 NA:8",
  "11.0:2A NA:16 14.0:1A NA:26 13.0:1C NA:14 12.0:17 NA:9 6.0:4E NA:4 6.0:1E 14.0:6 NA:9 7.0:1",
  "5.2:42 14.0:1 NA:A 11.0:1 NA:2 6.1:19 NA:7 6.1:A NA:6 6.1:35 NA:1 6.1:E 11.0:3 13.0:1 NA:8",
  "7.0:27 NA:9 6.1:49 8.0:4 7.0:1 13.0:2 6.1:A 7.0:1 8.0:5 NA:1 7.0:14 NA:B 7.0:12 NA:1 7.0:2B",
  "9.0:1 15.0:3 NA:3E 8.0:7 NA:1 8.0:1 NA:1 8.0:4 NA:1 8.0:F NA:1 8.0:B NA:6 7.0:3B NA:5 7.0:A",
  "NA:6 8.0:1 7.0:3 NA:1 7.0:8 NA:2 7.0:2 NA:2 7.0:16 NA:1 7.0:7 NA:1 7.0:2 NA:1 7.0:5 NA:1",
  "11.0:1 7.0:9 NA:2 7.0:2 NA:2 7.0:3 NA:2 8.0:1 NA:6 7.0:1 NA:5 7.0:7 NA:2 7.0:7 NA:3 7.0:5",
  "NA:B 16.0:A NA:1 16.0:1 NA:2 16.0:1 NA:1 16.0:26 NA:1 16.0:A NA:1 16.0:1 NA:2 16.0:1 NA:1",
  "16.0:4 NA:1 16.0:A NA:1 16.0:2 NA:8 16.0:2 NA:1D 9.0:5A 13.0:1 9.0:1 NA:1 9.0:1 11.0:1",
  "12.0:1 13.0:2 NA:1E 7.0:48 NA:8 7.0:A NA:A6 7.0:36 NA:2 7.0:12 8.0:14 NA:22 7.0:45 NA:B",
  "7.0:A NA:6 9.0:D NA:13 6.1:38 12.0:1 14.0:1 NA:6 6.1:A NA:6 16.0:14 NA:1C 8.0:1A 11.0:1 NA:2",
  "8.0:F NA:4 8.0:10 14.0:7 NA:B9 11.0:3C NA:64 7.0:53 NA:C 7.0:1 13.0:7 NA:2 13.0:1 NA:2",
  "13.0:8 NA:1 13.0:2 NA:1 13.0:1E NA:1 13.0:2 NA:2 13.0:C NA:9 13.0:A NA:46 12.0:8 NA:2",
  "12.0:2E NA:2 12.0:B NA:1B 10.0:48 NA:8 10.0:34 12.0:2 10.0:17 11.0:1 10.0:5 NA:D 14.0:10",
  "7.0:39 NA:7 15.0:A NA:B6 16.0:22 NA:E 16.0:A NA:6 9.0:9 NA:1 9.0:2D NA:1 9.0:E NA:A 9.0:1D",
  "NA:3 9.0:20 NA:2 9.0:16 NA:1 9.0:E NA:49 10.0:7 NA:1 10.0:2 NA:1 10.0:2C NA:3 10.0:1 NA:1",
  "10.0:2 NA:1 10.0:9 NA:8 10.0:A NA:6 11.0:6 NA:1 11.0:2 NA:1 11.0:25 NA:1 11.0:2 NA:1 11.0:6",
  "NA:7 11.0:A NA:136 11.0:19 NA:7 15.0:11 NA:1 15.0:29 NA:3 15.0:1C 16.0:1 NA:55 13.0:1 NA:F",
  "12.0:32 NA:D 12.0:1 5.0:36F 7.0:2A 8.0:1 NA:66 5.0:63 7.0:C NA:1 5.0:4 7.0:1 NA:B 8.0:C4",
  "NA:A4C 14.0:63 NA:D 5.2:42F 15.0:1 12.0:9 15.0:1D NA:A 16.0:F9B NA:5 8.0:247 NA:1AB9 16.0:3A",
  "NA:6C6 6.0:239 NA:7 7.0:1F NA:1 7.0:A NA:4 7.0:2 14.0:4F NA:1 14.0:A NA:6 7.0:1E NA:2 7.0:6",
  "NA:A 7.0:46 NA:A 7.0:A NA:1 7.0:7 NA:1 7.0:15 NA:5 7.0:13 NA:1B0 16.0:3A NA:C6 11.0:5B NA:65",
  "6.1:45 12.0:6 NA:4 12.0:1 6.1:2F 12.0:9 NA:7 6.1:11 NA:40 9.0:1 10.0:1 12.0:2 13.0:1 NA:B",
  "13.0:2 NA:E 9.0:17ED 11.0:5 12.0:6 NA:8 9.0:2F3 13.0:1E3 NA:29 16.0:1 13.0:9 NA:22E7 14.0:4",
  "NA:1 14.0:7 NA:1 14.0:2 NA:1 6.0:2 10.0:11D 14.0:4 NA:F 15.0:1 NA:1D 12.0:3 NA:2 15.0:1 NA:E",
  "12.0:4 NA:8 10.0:18C NA:904 7.0:6B NA:5 7.0:D NA:3 7.0:9 NA:7 7.0:A NA:2 7.0:8 NA:F5C",
  "16.0:FA NA:6 16.0:1B4 NA:4C 14.0:2E NA:2 14.0:17 NA:9 14.0:74 NA:3C 3.1:F6 NA:A 3.1:27 NA:2",
  "5.1:1 3.1:B4 8.0:B 14.0:2 NA:15 4.1:46 NA:7A 15.0:14 NA:C 11.0:14 NA:C 4.0:57 NA:9 5.0:12",
  "11.0:7 NA:87 3.1:55 NA:1 3.1:47 NA:1 3.1:2 NA:2 3.1:1 NA:2 3.1:2 NA:2 3.1:4 NA:1 3.1:C NA:1",
  "3.1:1 NA:1 3.1:4 4.0:1 3.1:2 NA:1 3.1:41 NA:1 3.1:4 NA:2 3.1:8 NA:1 3.1:7 NA:1 3.1:1C NA:1",
  "3.1:4 NA:1 3.1:5 NA:1 3.1:1 NA:3 3.1:7 NA:1 3.1:152 4.1:2 NA:2 3.1:122 5.0:2 NA:2 3.1:32",
  "8.0:28C NA:F 8.0:5 NA:1 8.0:F NA:450 14.0:1F NA:6 15.0:6 NA:D5 9.0:7 NA:1 9.0:11 NA:2 9.0:7",
  "NA:1 9.0:2 NA:1 9.0:5 NA:5 15.0:3E NA:21 15.0:1 NA:70 12.0:2D NA:3 12.0:E NA:2 12.0:A NA:4",
  "12.0:2 NA:140 14.0:1F NA:11 12.0:3A NA:5 12.0:1 NA:1D0 15.0:2A NA:D6 16.0:2B NA:4 16.0:1",
  "NA:1E0 14.0:7 NA:1 14.0:4 NA:1 14.0:2 NA:1 14.0:F NA:1 7.0:C5 NA:2 7.0:10 NA:29 9.0:4B",
  "12.0:1 NA:4 9.0:A NA:4 9.0:2 NA:311 11.0:44 NA:4C 12.0:3D NA:C2 6.1:4 NA:1 6.1:1B NA:1 6.1:2",
  "NA:1 6.1:1 NA:2 6.1:1 NA:1 6.1:A NA:1 6.1:4 NA:1 6.1:1 NA:1 6.1:1 NA:6 6.1:1 NA:4 6.1:1 NA:1",
  "6.1:1 NA:1 6.1:1 NA:1 6.1:3 NA:1 6.1:2 NA:1 6.1:1 NA:2 6.1:1 NA:1 6.1:1 NA:1 6.1:1 NA:1",
  "6.1:1 NA:1 6.1:1 NA:1 6.1:2 NA:1 6.1:1 NA:2 6.1:4 NA:1 6.1:7 NA:1 6.1:4 NA:1 6.1:4 NA:1",
  "6.1:1 NA:1 6.1:A NA:1 6.1:11 NA:5 6.1:3 NA:1 6.1:5 NA:1 6.1:11 NA:34 6.1:2 NA:10E 5.1:2C",
  "NA:4 5.1:64 NA:C 6.0:F NA:2 6.0:E 7.0:1 NA:1 6.0:F NA:1 6.0:F 7.0:16 NA:A 5.2:B 7.0:2 13.0:3",
  "5.2:1F 11.0:1 6.0:1 5.2:1 6.0:B 5.2:1 6.0:1 5.2:1 6.0:2 5.2:1 6.0:3 5.2:1 6.0:3 5.2:5 6.0:8",
  "5.2:1 6.0:7 5.2:1 6.0:A 6.1:2 12.0:1 13.0:3 6.0:9 5.2:1 6.0:1 5.2:2 6.0:2 5.2:1 6.0:A 5.2:4",
  "6.0:2 5.2:1 6.0:A 9.0:12 13.0:1 NA:38 6.0:1A 5.2:1 6.0:2 NA:D 5.2:22 6.0:9 9.0:1 NA:4 5.2:9",
  "NA:7 6.0:2 NA:E 10.0:6 NA:9A 6.0:21 7.0:C 8.0:3 6.0:6 7.0:1 6.0:46 7.0:1 8.0:2 6.0:14 7.0:C",
  "6.0:25 7.0:1 6.0:5 7.0:4 8.0:5 7.0:C 6.0:11 7.0:7 8.0:8 6.0:3F 7.0:1 6.0:1 7.0:1 6.0:B6",
  "7.0:1 6.0:4 7.0:2 8.0:1 6.0:3E 7.0:2 6.1:4 7.0:7 8.0:5 6.0:18 7.0:12 9.0:1 7.0:29 9.0:1",
  "7.0:56 6.0:5 6.1:1 6.0:10 6.1:1 6.0:3 6.1:1 6.0:1 6.1:1 6.0:1 6.1:1 6.0:1 6.1:1 6.0:3 6.1:1",
  "6.0:6 6.1:2 6.0:4 6.1:1 6.0:1 6.1:2 6.0:4 6.1:1 6.0:C 7.0:2 8.0:2 6.0:B 7.0:30 6.0:46 7.0:A",
  "8.0:1 9.0:2 10.0:2 12.0:1 13.0:2 NA:4 15.0:1 14.0:3 7.0:D NA:3 7.0:4 9.0:3 10.0:2 11.0:1",
  "12.0:1 13.0:2 NA:3 6.0:74 15.0:3 NA:4 15.0:5 7.0:55 11.0:4 15.0:1 NA:6 12.0:C NA:4 14.0:1",
  "NA:F 7.0:C NA:4 7.0:38 NA:8 7.0:A NA:6 7.0:28 NA:8 7.0:1E NA:2 13.0:2 16.0:A NA:4 16.0:2",
  "NA:3E 10.0:C 13.0:1 12.0:3 8.0:9 9.0:6 10.0:1 9.0:8 10.0:8 9.0:1 10.0:2 9.0:C 12.0:1 9.0:C",
  "10.0:1 11.0:3 9.0:F 10.0:D 11.0:5 12.0:1 13.0:1 11.0:4 13.0:2 14.0:1 11.0:1 12.0:1 11.0:4",
  "8.0:5 9.0:D 10.0:6 11.0:B 13.0:2 12.0:6 13.0:3 12.0:2 11.0:A 12.0:6 8.0:1 11.0:2 12.0:8",
  "13.0:1 14.0:1 12.0:3 10.0:17 11.0:19 12.0:54 NA:C 11.0:E NA:2 12.0:4 13.0:1 15.0:3 12.0:3",
  "14.0:2 NA:3 12.0:3 13.0:4 15.0:2 16.0:1 NA:5 16.0:1 12.0:6 13.0:13 14.0:4 15.0:3 13.0:7",
  "14.0:4 15.0:3 16.0:1 15.0:1 13.0:3 14.0:3 16.0:1 NA:7 15.0:2 13.0:7 14.0:3 15.0:2 16.0:1",
  "NA:2 16.0:1 14.0:8 15.0:1 16.0:1 NA:6 14.0:7 15.0:2 NA:7 13.0:93 NA:1 13.0:37 16.0:25 13.0:A",
  "NA:404 2.0:2 3.1:A6D7 13.0:7 14.0:2 NA:20 5.2:1035 14.0:4 15.0:1 NA:6 6.0:DE NA:2 8.0:1682",
  "NA:E 10.0:1D31 NA:F 15.1:26E NA:9A2 3.1:21E NA:5E0 2.0:2 13.0:134B NA:5 15.0:1060 NA:DC4E",
  "2.0:2 NA:FFFE 2.0:2 NA:FFFE 2.0:2 NA:FFFE 2.0:2 NA:FFFE 2.0:2 NA:FFFE 2.0:2 NA:FFFE 2.0:2",
  "NA:FFFE 2.0:2 NA:FFFE 2.0:2 NA:FFFE 2.0:2 NA:FFFE 2.0:2 NA:1 3.1:1 NA:1E 3.1:60 NA:80 4.0:F0",
  "NA:FE0E 2.0:20002"]

end SelectorGuard.Unicode
