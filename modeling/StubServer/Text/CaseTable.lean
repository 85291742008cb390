import StubServer.Text.CharTable

/-!
# Case tables

Unicode's case data beyond ASCII: the one-to-one mappings to lower case, to upper case and to
the simple case folding, the characters whose upper case is longer than one character, and the
two classes that decide the form of a final sigma.
-/

namespace StubServer

namespace Text

/-- Where the lower case is one other character. -/
def lowerShifts : List Shift :=
  Shift.ofRows [
    "c0-d6:32 d8-de:32 100-12e/2:1 132-136/2:1 139-147/2:1 14a-176/2:1 178:-121 179-17d/2:1",
    "181:210 182-184/2:1 186:206 187:1 189-18a:205 18b:1 18e:79 18f:202 190:203 191:1 193:205",
    "194:207 196:211 197:209 198:1 19c:211 19d:213 19f:214 1a0-1a4/2:1 1a6:218 1a7:1 1a9:218",
    "1ac:1 1ae:218 1af:1 1b1-1b2:217 1b3-1b5/2:1 1b7:219 1b8:1 1bc:1 1c4:2 1c5:1 1c7:2 1c8:1",
    "1ca:2 1cb-1db/2:1 1de-1ee/2:1 1f1:2 1f2-1f4/2:1 1f6:-97 1f7:-56 1f8-21e/2:1 220:-130",
    "222-232/2:1 23a:10795 23b:1 23d:-163 23e:10792 241:1 243:-195 244:69 245:71 246-24e/2:1",
    "370-372/2:1 376:1 37f:116 386:38 388-38a:37 38c:64 38e-38f:63 391-3a1:32 3a3-3ab:32 3cf:8",
    "3d8-3ee/2:1 3f4:-60 3f7:1 3f9:-7 3fa:1 3fd-3ff:-130 400-40f:80 410-42f:32 460-480/2:1",
    "48a-4be/2:1 4c0:15 4c1-4cd/2:1 4d0-52e/2:1 531-556:48 10a0-10c5:7264 10c7:7264 10cd:7264",
    "13a0-13ef:38864 13f0-13f5:8 1c89:1 1c90-1cba:-3008 1cbd-1cbf:-3008 1e00-1e94/2:1 1e9e:-7615",
    "1ea0-1efe/2:1 1f08-1f0f:-8 1f18-1f1d:-8 1f28-1f2f:-8 1f38-1f3f:-8 1f48-1f4d:-8",
    "1f59-1f5f/2:-8 1f68-1f6f:-8 1f88-1f8f:-8 1f98-1f9f:-8 1fa8-1faf:-8 1fb8-1fb9:-8",
    "1fba-1fbb:-74 1fbc:-9 1fc8-1fcb:-86 1fcc:-9 1fd8-1fd9:-8 1fda-1fdb:-100 1fe8-1fe9:-8",
    "1fea-1feb:-112 1fec:-7 1ff8-1ff9:-128 1ffa-1ffb:-126 1ffc:-9 2126:-7517 212a:-8383",
    "212b:-8262 2132:28 2160-216f:16 2183:1 24b6-24cf:26 2c00-2c2f:48 2c60:1 2c62:-10743",
    "2c63:-3814 2c64:-10727 2c67-2c6b/2:1 2c6d:-10780 2c6e:-10749 2c6f:-10783 2c70:-10782 2c72:1",
    "2c75:1 2c7e-2c7f:-10815 2c80-2ce2/2:1 2ceb-2ced/2:1 2cf2:1 a640-a66c/2:1 a680-a69a/2:1",
    "a722-a72e/2:1 a732-a76e/2:1 a779-a77b/2:1 a77d:-35332 a77e-a786/2:1 a78b:1 a78d:-42280",
    "a790-a792/2:1 a796-a7a8/2:1 a7aa:-42308 a7ab:-42319 a7ac:-42315 a7ad:-42305 a7ae:-42308",
    "a7b0:-42258 a7b1:-42282 a7b2:-42261 a7b3:928 a7b4-a7c2/2:1 a7c4:-48 a7c5:-42307 a7c6:-35384",
    "a7c7-a7c9/2:1 a7cb:-42343 a7cc:1 a7d0:1 a7d6-a7da/2:1 a7dc:-42561 a7f5:1 ff21-ff3a:32",
    "10400-10427:40 104b0-104d3:40 10570-1057a:39 1057c-1058a:39 1058c-10592:39 10594-10595:39",
    "10c80-10cb2:64 10d50-10d65:32 118a0-118bf:32 16e40-16e5f:32 1e900-1e921:34"]

/-- Where the upper case is one other character. -/
def upperShifts : List Shift :=
  Shift.ofRows [
    "b5:743 e0-f6:-32 f8-fe:-32 ff:121 101-12f/2:-1 131:-232 133-137/2:-1 13a-148/2:-1",
    "14b-177/2:-1 17a-17e/2:-1 17f:-300 180:195 183-185/2:-1 188:-1 18c:-1 192:-1 195:97 199:-1",
    "19a:163 19b:42561 19e:130 1a1-1a5/2:-1 1a8:-1 1ad:-1 1b0:-1 1b4-1b6/2:-1 1b9:-1 1bd:-1",
    "1bf:56 1c5:-1 1c6:-2 1c8:-1 1c9:-2 1cb:-1 1cc:-2 1ce-1dc/2:-1 1dd:-79 1df-1ef/2:-1 1f2:-1",
    "1f3:-2 1f5:-1 1f9-21f/2:-1 223-233/2:-1 23c:-1 23f-240:10815 242:-1 247-24f/2:-1 250:10783",
    "251:10780 252:10782 253:-210 254:-206 256-257:-205 259:-202 25b:-203 25c:42319 260:-205",
    "261:42315 263:-207 264:42343 265:42280 266:42308 268:-209 269:-211 26a:42308 26b:10743",
    "26c:42305 26f:-211 271:10749 272:-213 275:-214 27d:10727 280:-218 282:42307 283:-218",
    "287:42282 288:-218 289:-69 28a-28b:-217 28c:-71 292:-219 29d:42261 29e:42258 345:84",
    "371-373/2:-1 377:-1 37b-37d:130 3ac:-38 3ad-3af:-37 3b1-3c1:-32 3c2:-31 3c3-3cb:-32 3cc:-64",
    "3cd-3ce:-63 3d0:-62 3d1:-57 3d5:-47 3d6:-54 3d7:-8 3d9-3ef/2:-1 3f0:-86 3f1:-80 3f2:7",
    "3f3:-116 3f5:-96 3f8:-1 3fb:-1 430-44f:-32 450-45f:-80 461-481/2:-1 48b-4bf/2:-1",
    "4c2-4ce/2:-1 4cf:-15 4d1-52f/2:-1 561-586:-48 10d0-10fa:3008 10fd-10ff:3008 13f8-13fd:-8",
    "1c80:-6254 1c81:-6253 1c82:-6244 1c83-1c84:-6242 1c85:-6243 1c86:-6236 1c87:-6181 1c88:35266",
    "1c8a:-1 1d79:35332 1d7d:3814 1d8e:35384 1e01-1e95/2:-1 1e9b:-59 1ea1-1eff/2:-1 1f00-1f07:8",
    "1f10-1f15:8 1f20-1f27:8 1f30-1f37:8 1f40-1f45:8 1f51-1f57/2:8 1f60-1f67:8 1f70-1f71:74",
    "1f72-1f75:86 1f76-1f77:100 1f78-1f79:128 1f7a-1f7b:112 1f7c-1f7d:126 1fb0-1fb1:8 1fbe:-7205",
    "1fd0-1fd1:8 1fe0-1fe1:8 1fe5:7 214e:-28 2170-217f:-16 2184:-1 24d0-24e9:-26 2c30-2c5f:-48",
    "2c61:-1 2c65:-10795 2c66:-10792 2c68-2c6c/2:-1 2c73:-1 2c76:-1 2c81-2ce3/2:-1 2cec-2cee/2:-1",
    "2cf3:-1 2d00-2d25:-7264 2d27:-7264 2d2d:-7264 a641-a66d/2:-1 a681-a69b/2:-1 a723-a72f/2:-1",
    "a733-a76f/2:-1 a77a-a77c/2:-1 a77f-a787/2:-1 a78c:-1 a791-a793/2:-1 a794:48 a797-a7a9/2:-1",
    "a7b5-a7c3/2:-1 a7c8-a7ca/2:-1 a7cd:-1 a7d1:-1 a7d7-a7db/2:-1 a7f6:-1 ab53:-928",
    "ab70-abbf:-38864 ff41-ff5a:-32 10428-1044f:-40 104d8-104fb:-40 10597-105a1:-39",
    "105a3-105b1:-39 105b3-105b9:-39 105bb-105bc:-39 10cc0-10cf2:-64 10d70-10d85:-32",
    "118c0-118df:-32 16e60-16e7f:-32 1e922-1e943:-34"]

/-- Where the simple case folding is another character. -/
def foldShifts : List Shift :=
  Shift.ofRows [
    "b5:775 c0-d6:32 d8-de:32 100-12e/2:1 132-136/2:1 139-147/2:1 14a-176/2:1 178:-121",
    "179-17d/2:1 17f:-268 181:210 182-184/2:1 186:206 187:1 189-18a:205 18b:1 18e:79 18f:202",
    "190:203 191:1 193:205 194:207 196:211 197:209 198:1 19c:211 19d:213 19f:214 1a0-1a4/2:1",
    "1a6:218 1a7:1 1a9:218 1ac:1 1ae:218 1af:1 1b1-1b2:217 1b3-1b5/2:1 1b7:219 1b8:1 1bc:1 1c4:2",
    "1c5:1 1c7:2 1c8:1 1ca:2 1cb-1db/2:1 1de-1ee/2:1 1f1:2 1f2-1f4/2:1 1f6:-97 1f7:-56",
    "1f8-21e/2:1 220:-130 222-232/2:1 23a:10795 23b:1 23d:-163 23e:10792 241:1 243:-195 244:69",
    "245:71 246-24e/2:1 345:116 370-372/2:1 376:1 37f:116 386:38 388-38a:37 38c:64 38e-38f:63",
    "391-3a1:32 3a3-3ab:32 3c2:1 3cf:8 3d0:-30 3d1:-25 3d5:-15 3d6:-22 3d8-3ee/2:1 3f0:-54",
    "3f1:-48 3f4:-60 3f5:-64 3f7:1 3f9:-7 3fa:1 3fd-3ff:-130 400-40f:80 410-42f:32 460-480/2:1",
    "48a-4be/2:1 4c0:15 4c1-4cd/2:1 4d0-52e/2:1 531-556:48 10a0-10c5:7264 10c7:7264 10cd:7264",
    "13f8-13fd:-8 1c80:-6222 1c81:-6221 1c82:-6212 1c83-1c84:-6210 1c85:-6211 1c86:-6204",
    "1c87:-6180 1c88:35267 1c89:1 1c90-1cba:-3008 1cbd-1cbf:-3008 1e00-1e94/2:1 1e9b:-58",
    "1e9e:-7615 1ea0-1efe/2:1 1f08-1f0f:-8 1f18-1f1d:-8 1f28-1f2f:-8 1f38-1f3f:-8 1f48-1f4d:-8",
    "1f59-1f5f/2:-8 1f68-1f6f:-8 1f88-1f8f:-8 1f98-1f9f:-8 1fa8-1faf:-8 1fb8-1fb9:-8",
    "1fba-1fbb:-74 1fbc:-9 1fbe:-7173 1fc8-1fcb:-86 1fcc:-9 1fd3:-7235 1fd8-1fd9:-8",
    "1fda-1fdb:-100 1fe3:-7219 1fe8-1fe9:-8 1fea-1feb:-112 1fec:-7 1ff8-1ff9:-128 1ffa-1ffb:-126",
    "1ffc:-9 2126:-7517 212a:-8383 212b:-8262 2132:28 2160-216f:16 2183:1 24b6-24cf:26",
    "2c00-2c2f:48 2c60:1 2c62:-10743 2c63:-3814 2c64:-10727 2c67-2c6b/2:1 2c6d:-10780 2c6e:-10749",
    "2c6f:-10783 2c70:-10782 2c72:1 2c75:1 2c7e-2c7f:-10815 2c80-2ce2/2:1 2ceb-2ced/2:1 2cf2:1",
    "a640-a66c/2:1 a680-a69a/2:1 a722-a72e/2:1 a732-a76e/2:1 a779-a77b/2:1 a77d:-35332",
    "a77e-a786/2:1 a78b:1 a78d:-42280 a790-a792/2:1 a796-a7a8/2:1 a7aa:-42308 a7ab:-42319",
    "a7ac:-42315 a7ad:-42305 a7ae:-42308 a7b0:-42258 a7b1:-42282 a7b2:-42261 a7b3:928",
    "a7b4-a7c2/2:1 a7c4:-48 a7c5:-42307 a7c6:-35384 a7c7-a7c9/2:1 a7cb:-42343 a7cc:1 a7d0:1",
    "a7d6-a7da/2:1 a7dc:-42561 a7f5:1 ab70-abbf:-38864 fb05:1 ff21-ff3a:32 10400-10427:40",
    "104b0-104d3:40 10570-1057a:39 1057c-1058a:39 1058c-10592:39 10594-10595:39 10c80-10cb2:64",
    "10d50-10d65:32 118a0-118bf:32 16e40-16e5f:32 1e900-1e921:34"]

/-- Where the upper case is several characters. -/
def longUppers : List (Nat × List Nat) :=
  [(0xDF, [0x53, 0x53]), (0x149, [0x2BC, 0x4E]),
   (0x1F0, [0x4A, 0x30C]), (0x390, [0x399, 0x308, 0x301]),
   (0x3B0, [0x3A5, 0x308, 0x301]), (0x587, [0x535, 0x552]),
   (0x1E96, [0x48, 0x331]), (0x1E97, [0x54, 0x308]),
   (0x1E98, [0x57, 0x30A]), (0x1E99, [0x59, 0x30A]),
   (0x1E9A, [0x41, 0x2BE]), (0x1F50, [0x3A5, 0x313]),
   (0x1F52, [0x3A5, 0x313, 0x300]), (0x1F54, [0x3A5, 0x313, 0x301]),
   (0x1F56, [0x3A5, 0x313, 0x342]), (0x1F80, [0x1F08, 0x399]),
   (0x1F81, [0x1F09, 0x399]), (0x1F82, [0x1F0A, 0x399]),
   (0x1F83, [0x1F0B, 0x399]), (0x1F84, [0x1F0C, 0x399]),
   (0x1F85, [0x1F0D, 0x399]), (0x1F86, [0x1F0E, 0x399]),
   (0x1F87, [0x1F0F, 0x399]), (0x1F88, [0x1F08, 0x399]),
   (0x1F89, [0x1F09, 0x399]), (0x1F8A, [0x1F0A, 0x399]),
   (0x1F8B, [0x1F0B, 0x399]), (0x1F8C, [0x1F0C, 0x399]),
   (0x1F8D, [0x1F0D, 0x399]), (0x1F8E, [0x1F0E, 0x399]),
   (0x1F8F, [0x1F0F, 0x399]), (0x1F90, [0x1F28, 0x399]),
   (0x1F91, [0x1F29, 0x399]), (0x1F92, [0x1F2A, 0x399]),
   (0x1F93, [0x1F2B, 0x399]), (0x1F94, [0x1F2C, 0x399]),
   (0x1F95, [0x1F2D, 0x399]), (0x1F96, [0x1F2E, 0x399]),
   (0x1F97, [0x1F2F, 0x399]), (0x1F98, [0x1F28, 0x399]),
   (0x1F99, [0x1F29, 0x399]), (0x1F9A, [0x1F2A, 0x399]),
   (0x1F9B, [0x1F2B, 0x399]), (0x1F9C, [0x1F2C, 0x399]),
   (0x1F9D, [0x1F2D, 0x399]), (0x1F9E, [0x1F2E, 0x399]),
   (0x1F9F, [0x1F2F, 0x399]), (0x1FA0, [0x1F68, 0x399]),
   (0x1FA1, [0x1F69, 0x399]), (0x1FA2, [0x1F6A, 0x399]),
   (0x1FA3, [0x1F6B, 0x399]), (0x1FA4, [0x1F6C, 0x399]),
   (0x1FA5, [0x1F6D, 0x399]), (0x1FA6, [0x1F6E, 0x399]),
   (0x1FA7, [0x1F6F, 0x399]), (0x1FA8, [0x1F68, 0x399]),
   (0x1FA9, [0x1F69, 0x399]), (0x1FAA, [0x1F6A, 0x399]),
   (0x1FAB, [0x1F6B, 0x399]), (0x1FAC, [0x1F6C, 0x399]),
   (0x1FAD, [0x1F6D, 0x399]), (0x1FAE, [0x1F6E, 0x399]),
   (0x1FAF, [0x1F6F, 0x399]), (0x1FB2, [0x1FBA, 0x399]),
   (0x1FB3, [0x391, 0x399]), (0x1FB4, [0x386, 0x399]),
   (0x1FB6, [0x391, 0x342]), (0x1FB7, [0x391, 0x342, 0x399]),
   (0x1FBC, [0x391, 0x399]), (0x1FC2, [0x1FCA, 0x399]),
   (0x1FC3, [0x397, 0x399]), (0x1FC4, [0x389, 0x399]),
   (0x1FC6, [0x397, 0x342]), (0x1FC7, [0x397, 0x342, 0x399]),
   (0x1FCC, [0x397, 0x399]), (0x1FD2, [0x399, 0x308, 0x300]),
   (0x1FD3, [0x399, 0x308, 0x301]), (0x1FD6, [0x399, 0x342]),
   (0x1FD7, [0x399, 0x308, 0x342]), (0x1FE2, [0x3A5, 0x308, 0x300]),
   (0x1FE3, [0x3A5, 0x308, 0x301]), (0x1FE4, [0x3A1, 0x313]),
   (0x1FE6, [0x3A5, 0x342]), (0x1FE7, [0x3A5, 0x308, 0x342]),
   (0x1FF2, [0x1FFA, 0x399]), (0x1FF3, [0x3A9, 0x399]),
   (0x1FF4, [0x38F, 0x399]), (0x1FF6, [0x3A9, 0x342]),
   (0x1FF7, [0x3A9, 0x342, 0x399]), (0x1FFC, [0x3A9, 0x399]),
   (0xFB00, [0x46, 0x46]), (0xFB01, [0x46, 0x49]),
   (0xFB02, [0x46, 0x4C]), (0xFB03, [0x46, 0x46, 0x49]),
   (0xFB04, [0x46, 0x46, 0x4C]), (0xFB05, [0x53, 0x54]),
   (0xFB06, [0x53, 0x54]), (0xFB13, [0x544, 0x546]),
   (0xFB14, [0x544, 0x535]), (0xFB15, [0x544, 0x53B]),
   (0xFB16, [0x54E, 0x546]), (0xFB17, [0x544, 0x53D])]

/-- The property `Cased`. -/
def casedRanges : List Range :=
  Range.ofRows [
    "41-5a 61-7a aa b5 ba c0-d6 d8-f6 f8-1ba 1bc-1bf 1c4-293 295-2b8 2c0-2c1 2e0-2e4 345 370-373",
    "376-377 37a-37d 37f 386 388-38a 38c 38e-3a1 3a3-3f5 3f7-481 48a-52f 531-556 560-588",
    "10a0-10c5 10c7 10cd 10d0-10fa 10fc-10ff 13a0-13f5 13f8-13fd 1c80-1c88 1c90-1cba 1cbd-1cbf",
    "1d00-1dbf 1e00-1f15 1f18-1f1d 1f20-1f45 1f48-1f4d 1f50-1f57 1f59-1f5d/2 1f5f-1f7d 1f80-1fb4",
    "1fb6-1fbc 1fbe 1fc2-1fc4 1fc6-1fcc 1fd0-1fd3 1fd6-1fdb 1fe0-1fec 1ff2-1ff4 1ff6-1ffc 2071",
    "207f 2090-209c 2102 2107 210a-2113 2115 2119-211d 2124-2128/2 212a-212d 212f-2134 2139",
    "213c-213f 2145-2149 214e 2160-217f 2183-2184 24b6-24e9 2c00-2ce4 2ceb-2cee 2cf2-2cf3",
    "2d00-2d25 2d27 2d2d a640-a66d a680-a69d a722-a787 a78b-a78e a790-a7ca a7d0-a7d1 a7d3",
    "a7d5-a7d9 a7f2-a7f6 a7f8-a7fa ab30-ab5a ab5c-ab69 ab70-abbf fb00-fb06 fb13-fb17 ff21-ff3a",
    "ff41-ff5a 10400-1044f 104b0-104d3 104d8-104fb 10570-1057a 1057c-1058a 1058c-10592",
    "10594-10595 10597-105a1 105a3-105b1 105b3-105b9 105bb-105bc 10780 10783-10785 10787-107b0",
    "107b2-107ba 10c80-10cb2 10cc0-10cf2 118a0-118df 16e40-16e7f 1d400-1d454 1d456-1d49c",
    "1d49e-1d49f 1d4a2 1d4a5-1d4a6 1d4a9-1d4ac 1d4ae-1d4b9 1d4bb 1d4bd-1d4c3 1d4c5-1d505",
    "1d507-1d50a 1d50d-1d514 1d516-1d51c 1d51e-1d539 1d53b-1d53e 1d540-1d544 1d546 1d54a-1d550",
    "1d552-1d6a5 1d6a8-1d6c0 1d6c2-1d6da 1d6dc-1d6fa 1d6fc-1d714 1d716-1d734 1d736-1d74e",
    "1d750-1d76e 1d770-1d788 1d78a-1d7a8 1d7aa-1d7c2 1d7c4-1d7cb 1df00-1df09 1df0b-1df1e",
    "1df25-1df2a 1e030-1e06d 1e900-1e943 1f130-1f149 1f150-1f169 1f170-1f189"]

/-- The property `Case_Ignorable`. -/
def caseIgnorableRanges : List Range :=
  Range.ofRows [
    "27 2e 3a 5e 60 a8 ad af b4 b7-b8 2b0-36f 374-375 37a 384-385 387 483-489 559 55f 591-5bd 5bf",
    "5c1-5c2 5c4-5c5 5c7 5f4 600-605 610-61a 61c 640 64b-65f 670 6d6-6dd 6df-6e8 6ea-6ed 70f 711",
    "730-74a 7a6-7b0 7eb-7f5 7fa 7fd 816-82d 859-85b 888 890-891 898-89f 8c9-902 93a 93c 941-948",
    "94d 951-957 962-963 971 981 9bc 9c1-9c4 9cd 9e2-9e3 9fe a01-a02 a3c a41-a42 a47-a48 a4b-a4d",
    "a51 a70-a71 a75 a81-a82 abc ac1-ac5 ac7-ac8 acd ae2-ae3 afa-aff b01 b3c b3f b41-b44 b4d",
    "b55-b56 b62-b63 b82 bc0 bcd c00 c04 c3c c3e-c40 c46-c48 c4a-c4d c55-c56 c62-c63 c81 cbc cbf",
    "cc6 ccc-ccd ce2-ce3 d00-d01 d3b-d3c d41-d44 d4d d62-d63 d81 dca dd2-dd4 dd6 e31 e34-e3a",
    "e46-e4e eb1 eb4-ebc ec6 ec8-ece f18-f19 f35-f39/2 f71-f7e f80-f84 f86-f87 f8d-f97 f99-fbc",
    "fc6 102d-1030 1032-1037 1039-103a 103d-103e 1058-1059 105e-1060 1071-1074 1082 1085-1086",
    "108d 109d 10fc 135d-135f 1712-1714 1732-1733 1752-1753 1772-1773 17b4-17b5 17b7-17bd 17c6",
    "17c9-17d3 17d7 17dd 180b-180f 1843 1885-1886 18a9 1920-1922 1927-1928 1932 1939-193b",
    "1a17-1a18 1a1b 1a56 1a58-1a5e 1a60 1a62 1a65-1a6c 1a73-1a7c 1a7f 1aa7 1ab0-1ace 1b00-1b03",
    "1b34 1b36-1b3a 1b3c 1b42 1b6b-1b73 1b80-1b81 1ba2-1ba5 1ba8-1ba9 1bab-1bad 1be6 1be8-1be9",
    "1bed 1bef-1bf1 1c2c-1c33 1c36-1c37 1c78-1c7d 1cd0-1cd2 1cd4-1ce0 1ce2-1ce8 1ced 1cf4",
    "1cf8-1cf9 1d2c-1d6a 1d78 1d9b-1dff 1fbd 1fbf-1fc1 1fcd-1fcf 1fdd-1fdf 1fed-1fef 1ffd-1ffe",
    "200b-200f 2018-2019 2024 2027 202a-202e 2060-2064 2066-206f 2071 207f 2090-209c 20d0-20f0",
    "2c7c-2c7d 2cef-2cf1 2d6f 2d7f 2de0-2dff 2e2f 3005 302a-302d 3031-3035 303b 3099-309e",
    "30fc-30fe a015 a4f8-a4fd a60c a66f-a672 a674-a67d a67f a69c-a69f a6f0-a6f1 a700-a721 a770",
    "a788-a78a a7f2-a7f4 a7f8-a7f9 a802 a806 a80b a825-a826 a82c a8c4-a8c5 a8e0-a8f1 a8ff",
    "a926-a92d a947-a951 a980-a982 a9b3 a9b6-a9b9 a9bc-a9bd a9cf a9e5-a9e6 aa29-aa2e aa31-aa32",
    "aa35-aa36 aa43 aa4c aa70 aa7c aab0 aab2-aab4 aab7-aab8 aabe-aabf aac1 aadd aaec-aaed",
    "aaf3-aaf4 aaf6 ab5b-ab5f ab69-ab6b abe5 abe8 abed fb1e fbb2-fbc2 fe00-fe0f fe13 fe20-fe2f",
    "fe52 fe55 feff ff07 ff0e ff1a ff3e ff40 ff70 ff9e-ff9f ffe3 fff9-fffb 101fd 102e0",
    "10376-1037a 10780-10785 10787-107b0 107b2-107ba 10a01-10a03 10a05-10a06 10a0c-10a0f",
    "10a38-10a3a 10a3f 10ae5-10ae6 10d24-10d27 10eab-10eac 10efd-10eff 10f46-10f50 10f82-10f85",
    "11001 11038-11046 11070 11073-11074 1107f-11081 110b3-110b6 110b9-110ba 110bd 110c2 110cd",
    "11100-11102 11127-1112b 1112d-11134 11173 11180-11181 111b6-111be 111c9-111cc 111cf",
    "1122f-11231 11234 11236-11237 1123e 11241 112df 112e3-112ea 11300-11301 1133b-1133c 11340",
    "11366-1136c 11370-11374 11438-1143f 11442-11444 11446 1145e 114b3-114b8 114ba 114bf-114c0",
    "114c2-114c3 115b2-115b5 115bc-115bd 115bf-115c0 115dc-115dd 11633-1163a 1163d 1163f-11640",
    "116ab 116ad 116b0-116b5 116b7 1171d-1171f 11722-11725 11727-1172b 1182f-11837 11839-1183a",
    "1193b-1193c 1193e 11943 119d4-119d7 119da-119db 119e0 11a01-11a0a 11a33-11a38 11a3b-11a3e",
    "11a47 11a51-11a56 11a59-11a5b 11a8a-11a96 11a98-11a99 11c30-11c36 11c38-11c3d 11c3f",
    "11c92-11ca7 11caa-11cb0 11cb2-11cb3 11cb5-11cb6 11d31-11d36 11d3a 11d3c-11d3d 11d3f-11d45",
    "11d47 11d90-11d91 11d95 11d97 11ef3-11ef4 11f00-11f01 11f36-11f3a 11f40 11f42 13430-13440",
    "13447-13455 16af0-16af4 16b30-16b36 16b40-16b43 16f4f 16f8f-16f9f 16fe0-16fe1 16fe3-16fe4",
    "1aff0-1aff3 1aff5-1affb 1affd-1affe 1bc9d-1bc9e 1bca0-1bca3 1cf00-1cf2d 1cf30-1cf46",
    "1d167-1d169 1d173-1d182 1d185-1d18b 1d1aa-1d1ad 1d242-1d244 1da00-1da36 1da3b-1da6c 1da75",
    "1da84 1da9b-1da9f 1daa1-1daaf 1e000-1e006 1e008-1e018 1e01b-1e021 1e023-1e024 1e026-1e02a",
    "1e030-1e06d 1e08f 1e130-1e13d 1e2ae 1e2ec-1e2ef 1e4eb-1e4ef 1e8d0-1e8d6 1e944-1e94b",
    "1f3fb-1f3ff e0001 e0020-e007f e0100-e01ef"]

end Text

end StubServer
