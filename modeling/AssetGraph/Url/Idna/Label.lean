import AssetGraph.Text.Turns
import AssetGraph.Url.Idna.Mapping
import AssetGraph.Url.Idna.Normal
/-!
# Labels

What a label of a host's name must keep to: it does not begin with a mark, joiners stand only where a
script needs them, and in a name that is written from right to left in part each label keeps the
direction that it starts in.  The tables are data of the Unicode character database.
-/
namespace AssetGraph.Idna

open Text (CodeTable)

/-- Characters that combine with the one before. -/
def marks : CodeTable :=
  .ofLines
    ["300 70 113 7 107 2d 1 1 1 2 1 2 1 1 48 b 30 15 10 1 65 7 2 6 2 2 1 4 23 1 1e 1b 5b b 3a 9 9",
    "1 18 4 1 9 1 3 1 5 2b 3 3c 8 2a 18 1 21 36 3 1 12 1 7 a 2 1d 3 38 1 1 7 2 2 2 3 9 1 a 2 1a 1",
    "2 3 38 1 1 5 4 2 2 3 3 1 1e 2 3 1 b 3 38 1 1 8 1 3 1 3 14 2 16 6 1 3 38 1 1 7 2 2 2 3 7 3 a",
    "2 1e 1 3b 5 3 3 1 4 9 1 28 5 37 1 1 7 1 3 1 4 7 2 b 2 1d 3 38 1 1 7 1 3 1 4 7 2 b 2 1c 4 37",
    "2 1 7 1 3 1 4 9 1 a 2 1d 3 46 1 4 6 1 1 1 8 12 2 3d 1 2 7 c 8 62 1 2 9 b 6 4a 2 1b 1 1 1 1 1",
    "4 2 31 14 1 2 5 b 1 24 9 1 64 14 17 4 4 3 1 3 2 7 3 4 d c 1 1 a 4 2bf 3 3b2 4 1c 3 1d 2 1e 2",
    "40 20 9 1 2d 3 1 1 75 2 22 1 76 c 4 c db 5 39 a 1 1d 2 1 30 1f 31 5 2f 11 26 9 c 3 1e d 38 e",
    "30 14 98 3 1 15 4 1 6 1 2 3 c6 40 2d0 21 bfe 3 8d 1 60 20 22a 6 69 2 75d4 4 1 a 20 2 50 2",
    "110 1 3 1 4 1 17 5 4 1 53 2 32 12 1a 12 d 1 26 8 19 d 2c 4 2f e 24 1 43 e c 1 8 2 2d 3 32 1",
    "1 3 2 2 5 2 1 1 29 5 5 2 ec 8 1 2 4f30 1 2e1 10 10 10 3cd 1 e2 1 95 5 686 3 1 2 5 4 28 3 4 1",
    "a5 2 23d 4 183 2 99 b 31 4 7a 3 35 f 29 1 2 2 a 4 2d b 7 1 3d 3 24 e 10 2 2c 1 c 3 30 e 8 4",
    "1 2 5c c 6 1 a0 c 15 4 37 2 1 7 2 2 2 3 9 1 a 2 2 7 3 5 c0 12 17 1 51 14 eb 7 2 9 1b 2 52 11",
    "6a d 65 f 100 f f5 6 1 2 2 4 1 1 1 2 8d 7 2 7 3 1 1c a 28 7 1 4 8 1 9 b 2e 10 195 8 1 8 52",
    "16 1 e 7a 6 3 1 1 2 1 7 1 1 42 5 1 2 1 5 15b 4 4bf9 5 3b 7 418 1 1 37 7 4 51 1 b 2 4cab 2",
    "1261 2e 2 17 21e 5 3 6 8 8 2 7 1e 4 94 3 7bb 37 4 32 8 1 e 1 16 5 1 f 550 7 1 11 2 7 1 2 1 5",
    "105 7 177 1 3d 4 5e0 7 6d 7 c17b5 f0"]

/-- How a character joins its neighbours: 1 to the left, 2 to both sides, 3 to the right, 4 it is
passed over. -/
def joiningTypes : CodeTable :=
  .ofLines
    ["ad.4 1.0 252.4 70.0 113.4 7.0 107.4 2d.0 1.4 1.0 1.4 2.0 1.4 2.0 1.4 1.0 48.4 b.0 1.4 1.0",
    "3.2 1.0 1.3 4.2 1.3 1.2 1.3 1.2 5.3 4.2 d.0 1.2 7.3 1.2 2.4 15.0 e.2 2.4 1.3 3.0 1.3 3.2",
    "10.3 12.2 26.3 1.2 2.3 9.2 1.3 1.2 1.3 1.2 2.3 2.0 1.3 1.4 7.0 2.4 6.0 2.4 2.0 1.4 4.3 2.0",
    "a.2 3.0 2.2 1.0 f.4 1.3 1.4 1.2 3.3 5.2 4.3 1.2 9.3 1.2 1.3 1.2 1.3 1.2 2.3 1.4 1b.0 2.3 1.2",
    "b.3 3.2 f.3 2.2 4.3 1.2 1.3 2.2 3.3 2.2 6.0 26.4 b.0 19.2 21.4 9.0 9.4 1.0 18.4 4.0 1.4 9.0",
    "1.4 3.0 1.4 5.0 12.3 1.2 5.3 2.2 1.3 1.2 a.3 1.2 1.3 3.4 3.0 4.2 1.0 1.2 4.0 1.3 1.2 1.3 2.0",
    "5.3 13.0 3.2 1.0 2.2 5.3 1.0 9.4 8.2 a.3 3.0 1.3 1.2 2.3 2.2 6.3 1.2 f.0 1.4 18.0 1.4 20.0",
    "37.4 1.0 1.4 1.0 4.4 8.0 4.4 1.0 3.4 7.0 a.4 2.0 1d.4 1.0 3a.4 1.0 4.4 4.0 8.4 1.0 14.4 2.0",
    "1a.4 1.0 2.4 2.0 39.4 1.0 4.4 2.0 4.4 2.0 2.4 3.0 3.4 1.0 1e.4 2.0 3.4 1.0 b.4 2.0 39.4 1.0",
    "4.4 5.0 1.4 2.0 4.4 1.0 14.4 2.0 16.4 6.0 1.4 1.0 3a.4 1.0 2.4 1.0 1.4 4.0 8.4 1.0 7.4 2.0",
    "b.4 2.0 1e.4 1.0 3d.4 1.0 c.4 1.0 32.4 1.0 3.4 1.0 37.4 1.0 1.4 3.0 5.4 3.0 1.4 4.0 7.4 2.0",
    "b.4 2.0 1d.4 1.0 3a.4 1.0 2.4 1.0 6.4 1.0 5.4 2.0 14.4 2.0 1c.4 2.0 39.4 2.0 4.4 4.0 8.4 1.0",
    "14.4 2.0 1d.4 1.0 48.4 1.0 7.4 3.0 1.4 1.0 5a.4 1.0 2.4 7.0 c.4 8.0 62.4 1.0 2.4 9.0 b.4 7.0",
    "49.4 2.0 1b.4 1.0 1.4 1.0 1.4 1.0 37.4 e.0 1.4 5.0 1.4 2.0 5.4 b.0 1.4 24.0 9.4 1.0 66.4 4.0",
    "1.4 6.0 1.4 2.0 2.4 2.0 19.4 2.0 4.4 3.0 10.4 4.0 d.4 1.0 2.4 2.0 6.4 1.0 f.4 1.0 2bf.4 3.0",
    "3b2.4 3.0 1d.4 2.0 1e.4 2.0 1e.4 2.0 40.4 2.0 1.4 7.0 8.4 1.0 2.4 b.0 9.4 1.0 29.2 1.0 3.4",
    "3.0 1.4 1.0 10.2 59.0 c.4 2.2 22.4 1.2 1.0 75.4 3.0 4.4 2.0 9.4 1.0 6.4 3.0 db.4 2.0 2.4 1.0",
    "3a.4 1.0 1.4 7.0 1.4 1.0 1.4 1.0 2.4 8.0 6.4 a.0 2.4 1.0 30.4 1f.0 31.4 4.0 30.4 1.0 1.4 5.0",
    "1.4 1.0 5.4 1.0 28.4 9.0 c.4 2.0 20.4 4.0 2.4 2.0 1.4 3.0 38.4 1.0 1.4 2.0 3.4 1.0 1.4 3.0",
    "3a.4 8.0 2.4 2.0 98.4 3.0 1.4 d.0 1.4 7.0 4.4 1.0 6.4 1.0 3.4 2.0 c6.4 40.0 20b.4 1.0 2.4",
    "2.0 1a.4 5.0 31.4 5.0 5.4 6.0 60.4 21.0 bfe.4 3.0 8d.4 1.0 60.4 20.0 22a.4 4.0 6b.4 2.0",
    "75d4.4 4.0 1.4 a.0 20.4 2.0 50.4 2.0 110.4 1.0 3.4 1.0 4.4 1.0 19.4 2.0 5.4 1.0 13.2 32.1",
    "1.0 51.4 2.0 1a.4 12.0 d.4 1.0 26.4 8.0 19.4 b.0 2e.4 3.0 30.4 1.0 2.4 4.0 2.4 2.0 27.4 1.0",
    "43.4 6.0 2.4 2.0 2.4 2.0 c.4 1.0 8.4 1.0 2f.4 1.0 33.4 1.0 1.4 3.0 2.4 2.0 5.4 2.0 1.4 1.0",
    "2a.4 2.0 8.4 1.0 ee.4 1.0 2.4 1.0 4.4 1.0 4f30.4 1.0 2e1.4 10.0 10.4 10.0 cf.4 1.0 f9.4 3.0",
    "201.4 1.0 e2.4 1.0 95.4 5.0 686.4 3.0 1.4 2.0 5.4 4.0 28.4 3.0 4.4 1.0 80.2 5.3 1.0 1.3 1.0",
    "1.3 2.0 2.1 1.3 5.2 4.1 1.2 5.3 1.2 3.3 1.0 2.3 1.4 2.0 4.2 4.3 1.0 90.2 1.3 1.2 1.3 3.2 3.3",
    "1.2 2.3 1.2 1.3 2.2 1.3 1.0 17.3 4.2 2.0 151.1 1.2 21.3 1.2 1.4 4.0 183.4 2.0 50.4 3.0 30.2",
    "3.3 1.2 11.0 1.4 b.2 3.3 1.0 1b.2 4.3 2.2 c.4 4.0 2a.2 1.0 1.2 2.3 3.0 1.2 1.3 2.2 2.3 1.2",
    "2.0 1.2 1.3 2.2 1.0 4.3 1.2 1.1 1.0 35.4 1.0 36.4 f.0 29.4 1.0 2.4 2.0 a.4 3.0 31.4 4.0 2.4",
    "2.0 7.4 1.0 3d.4 3.0 24.4 5.0 1.4 8.0 3e.4 1.0 c.4 2.0 34.4 9.0 a.4 4.0 2.4 1.0 5f.4 3.0 2.4",
    "1.0 1.4 2.0 6.4 1.0 2.4 1.0 9d.4 1.0 3.4 8.0 15.4 2.0 39.4 2.0 3.4 1.0 25.4 7.0 3.4 5.0 c3.4",
    "8.0 2.4 3.0 1.4 1.0 17.4 1.0 54.4 6.0 1.4 1.0 4.4 2.0 1.4 2.0 ee.4 4.0 6.4 2.0 1.4 2.0 1b.4",
    "2.0 55.4 8.0 2.4 1.0 1.4 2.0 6a.4 1.0 1.4 1.0 2.4 6.0 1.4 1.0 65.4 3.0 2.4 4.0 1.4 5.0 103.4",
    "9.0 1.4 2.0 100.4 2.0 1.4 1.0 4.4 1.0 90.4 4.0 2.4 2.0 4.4 1.0 20.4 a.0 28.4 6.0 2.4 4.0 8.4",
    "1.0 9.4 6.0 2.4 3.0 2e.4 d.0 1.4 2.0 196.4 7.0 1.4 6.0 1.4 1.0 52.4 16.0 2.4 7.0 1.4 2.0 1.4",
    "2.0 7a.4 6.0 3.4 1.0 1.4 2.0 1.4 7.0 1.4 1.0 48.4 2.0 3.4 1.0 1.4 1.0 15b.4 2.0 b.4 2.0 34.4",
    "5.0 5.4 1.0 1.4 1.0 14ed.4 11.0 6.4 f.0 369a.4 5.0 3b.4 7.0 418.4 1.0 3f.4 4.0 51.4 1.0",
    "4cb8.4 2.0 1.4 4.0 125c.4 2e.0 2.4 17.0 220.4 3.0 9.4 10.0 2.4 7.0 1e.4 4.0 94.4 3.0 7bb.4",
    "37.0 4.4 32.0 8.4 1.0 e.4 1.0 16.4 5.0 1.4 f.0 550.4 7.0 1.4 11.0 2.4 7.0 1.4 2.0 1.4 5.0",
    "64.4 1.0 a0.4 7.0 177.4 1.0 3d.4 4.0 1fc.4 4.0 3e0.4 7.0 29.2 44.4 8.0 c16b5.4 1.0 1e.4 60.0",
    "80.4 f0.0"]

/-- Directions: 1 left to right; 2 and 3 right to left, 4 an Arabic and 5 a European digit, 6 and 8 the
signs beside numbers, 7 and 9 separators and neutral characters, 10 boundaries, 11 marks. -/
def directions : CodeTable :=
  .ofLines
    ["0.a 9.0 5.a e.0 5.9 2.8 3.9 5.6 1.7 1.6 1.7 2.5 a.7 1.9 6.1 1a.9 6.1 1a.9 4.a 22.9 1.8 4.9",
    "a.8 6.9 29.1 18.9 1.1 1c1.9 2.1 7.9 e.1 2.9 1c.1 1.9 11.b 71.1 4.9 2.1 7f.9 2.1 8b.b 8.1",
    "ff.9 5.8 2.b 2d.2 1.b 1.2 1.b 2.2 1.b 2.2 1.b 9.2 36.9 2.3 1.8 2.3 1.7 1.3 1.9 2.b b.3 30.b",
    "15.4 a.8 1.4 2.3 3.b 1.3 65.b 8.9 1.b 6.3 2.b 2.9 1.b 4.3 2.5 a.3 17.b 1.3 1e.b 1d.3 59.b",
    "b.3 f.2 2b.b 9.2 2.9 4.2 3.b 1.2 18.b 4.2 1.b 9.2 1.b 3.2 1.b 7.2 29.b 5.2 2.3 38.b 8.3 2a.b",
    "39.1 37.b 1.1 1.b 1.1 4.b 8.1 4.b 1.1 3.b f.1 2.b 2.1 1d.b 1.1 3a.b 1.1 4.b 6.1 6.b 1.1 14.b",
    "4.1 c.8 2.1 7.8 1.1 2.b 5.1 39.b 2.1 3.b 1b.1 14.b 2.1 3.b 1.1 b.b 2.1 39.b 1.1 4.b 8.1 4.b",
    "3.1 12.b 4.1 b.8 8.1 1.b 8.1 3a.b 1.1 2.b 1.1 1.b 6.1 6.b a.1 b.b 4.1 1c.b 1.1 3d.b 1.1 c.b",
    "3.1 23.9 6.8 1.9 6.b 1.1 3.b 1.1 37.b 1.1 1.b 3.1 5.b 12.1 a.b 4.1 12.9 7.1 2.b 1.1 3a.b 1.1",
    "f.b 9.1 d.b 4.1 d.0 d.b 2.1 39.b 2.1 4.b 5.1 7.b 1.1 14.b 4.1 1b.b 1.1 48.b 5.1 3.b 6.1 59.b",
    "1.1 2.b b.8 1.1 7.b 8.1 62.b 1.1 2.b 9.1 b.b 6.0 2.1 48.b 2.1 1b.b 1.1 1.b 1.1 1.b 1.9 4.1",
    "33.b e.1 1.b 5.1 1.b 2.1 5.b 31.1 8.b 1.1 66.b 4.1 1.b 6.1 1.b 2.1 2.b 2.1 19.b 2.1 4.b 3.1",
    "10.b 4.1 d.b 1.1 2.b 2.1 6.b 1.1 f.b 1.1 2bf.b 3.1 30.9 10.1 60.9 1.1 29a.9 5.1 72.b 3.1",
    "1d.b 2.1 1e.b e.1 12.b e.1 37.b 7.1 8.b 1.1 2.b b.1 7.8 1.1 1.b 3.1 10.9 20.1 75.b 2.1 22.b",
    "1.1 76.b 3.1 4.b 2.1 9.b 1.1 6.b 7.9 6.1 98.9 22.1 17.b 2.1 2.b 3.1 38.b 1.1 1.b 9.1 1.b 1.1",
    "2.b 8.1 6.b d.1 30.b 54.1 30.b 1.1 1.b 5.1 1.b 1.1 5.b 1.1 28.b 9.1 c.b 2.1 20.b 4.1 2.b 2.1",
    "1.b 3.1 38.b 1.1 1.b 2.1 3.b 1.1 1.b 3.1 3a.b 8.1 2.b 5.1 95.b 3.1 1.b d.1 1.b 7.1 4.b 1.1",
    "6.b 1.1 3.b 2.1 c6.b 41.1 20b.a 4.9 20.8 5.9 f.7 1.9 5b.8 30.b 34.9 2a.8 c.9 14.1 3c.9 88.6",
    "1.8 1.9 122.1 45.9 1a.1 1.9 316.1 1.9 153.1 100.9 330.1 b5.9 7.1 3.b 4.1 6.9 7.1 7f.b 1.1",
    "60.b 20.9 205.1 3.9 19.1 9.b 4.1 2.9 1.1 6.9 4.1 2.9 4.1 58.b 4.1 3.9 1.1 5a.9 1.1 c4.9 30.1",
    "1bd0.9 40.1 5690.9 40.1 13d.9 3.1 5f.b 4.9 1.b a.9 3.1 1d.b 2.1 50.b 2.1 e.9 23.1 65.9 1.1",
    "79.b 1.1 3.b 1.1 4.b 1.1 19.b 2.1 1.9 4.b 4.1 8.8 8.1 34.9 c.1 44.b a.1 12.b 12.1 d.b 1.1",
    "26.b 8.1 19.b b.1 2e.b 3.1 30.b 1.1 2.b 4.1 2.b 2.1 27.b 1.1 43.b 6.1 2.b 2.1 2.b b.1 3.b",
    "1.1 8.b 1.1 2f.b 1.1 33.b 1.1 1.b 3.1 2.b 2.1 5.b 2.1 1.b 1.1 2a.b 2.1 8.b b.1 69.9 56.1",
    "25.b 1.1 2.b 1.1 4.b 3.1 2c10.0 220e.1 110.b 94.3 18c.9 e2.b 25.9 2e.3 18d.1 101.9 1.1 3e.9",
    "4d.1 3.9 40.1 2d.b 83.1 60.b 1.5 1f.1 76.b a.1 480.2 11f.9 1.2 e1.b f.2 28.b 8.2 a5.b 6.2",
    "4e.9 7.2 1c0.3 24.b c.4 150.2 2b.b 2.2 50.0 3.2 30.3 16.b b.3 1f.2 12.b 4.2 7a.1 1.b 1.1",
    "36.b f.1 b.9 14.1 a.b 1.1 2.b 2.1 a.b 3.1 31.b 4.1 2.b 2.1 7.b e.1 30.b 3.1 24.b 5.1 1.b 9.1",
    "3d.b 1.1 c.b 2.1 34.b 9.1 a.b 4.1 2.b 1.1 5f.b 3.1 2.b 1.1 1.b 2.1 6.b 1.0 41.1 5f.b 1.1 3.b",
    "d.1 10.b 2.1 39.b 2.1 3.b 1.1 25.b 9a.1 38.b 8.1 2.b 3.1 1.b 1.1 17.b 1.1 54.b 6.1 1.b 1.1",
    "4.b 2.1 1.b 2.1 ee.b 6.1 4.b 2.1 1.b 2.1 1b.b 24.1 33.b 8.1 2.b 1.1 1.b 2.1 1f.9 20.1 2b.b",
    "1.1 1.b 1.1 2.b 6.1 1.b 1.1 65.b 3.1 2.b 4.1 1.b 9.1 ff.b 9.1 1.b 2.1 100.b 2.1 1.b 1.1 4.b",
    "1.1 90.b 8.1 4.b 1.1 20.b 6.1 2.b 2.1 28.b 6.1 2.b 4.1 8.b 9.1 1.b 6.1 2.b 3.1 2e.b d.1 1.b",
    "2.1 66.0 100.1 30.b e.1 54.b 17.1 1.b 7.1 1.b 2.1 1.b 4b.1 31.b 15.1 1.b 9.1 40.b 3.1 2.b",
    "1.1 1.b 1.1 15b.b 2.1 b.0 b0.1 25.9 8.8 4.9 1e.1 1430.0 fd1.1 26f0.b 5.1 3b.b 7.1 418.b 1.1",
    "3f.b 4.1 4f.9 1.1 1.b c.1 4142.0 1e.1 5.0 f.1 b39.b 2.1 1261.b 50.1 217.b 3.1 11.b 8.1 2.b",
    "7.1 1e.b 4.1 3b.9 59.b 3.9 7b.0 20.1 20.9 60.1 6a0.b 37.1 4.b 32.1 8.b 1.1 e.b 1.1 16.b",
    "465.1 25.0 db.b 8f.0 71.1 30.b 7.1 177.b 12.1 2c.b 4.1 f.8 1d1.0 310.1 20.2 d0.b 52.2 22.b",
    "7.2 326.3 27f.9 260.1 1d.9 3.1 3d.9 39.1 7a.9 47c.0 1.9 97.0 c.9 59.0 7.9 295.0 3.9 f.0 9.9",
    "1d.0 3.9 b.0 5.9 e.0 2.9 a.0 6.9 8.0 8.9 7.0 9.9 500.1 b739.0 7.1 34b0.0 1410.1 1350.0"]

def isMark (c : Char) : Bool := marks.holds c.toNat

/-! ## Joiners -/

/-- The class of the sign that takes a consonant's vowel away. -/
abbrev viramaClass : Nat := 9

def joiningType (c : Char) : Nat := joiningTypes.value c.toNat

/-- What stands next to a joiner, passing over what is transparent. -/
def neighbour (cs : List Char) : Nat :=
  match cs.find? (joiningType · != 4) with
  | some c => joiningType c
  | none => 0

/-- Whether a joiner may stand between what is before it, backwards, and what is behind. -/
def allowsJoiner (c : Char) (before behind : List Char) : Bool :=
  let afterVirama := before.head?.any fun p => combiningClass p.toNat == viramaClass
  if c = '\u200d' then afterVirama
  else if c = '\u200c' then
    afterVirama || ((neighbour before == 1 || neighbour before == 2) &&
      (neighbour behind == 3 || neighbour behind == 2))
  else true

def joinersFit : (before : List Char) → List Char → Bool
  | _, [] => true
  | before, c :: cs => allowsJoiner c before cs && joinersFit (c :: before) cs

/-! ## Direction -/

def direction (c : Char) : Nat := directions.value c.toNat

/-- A character that makes a name one with text from right to left. -/
def isRightToLeft (c : Char) : Bool := [2, 3, 4].contains (direction c)

/-- The direction of the last character that is no mark. -/
def lastDirection (cs : List Char) : Nat :=
  match cs.reverse.find? (direction · != 11) with
  | some c => direction c
  | none => 0

/-- **Whether a label keeps its direction.** -/
def keepsDirection (cs : List Char) : Bool :=
  match cs with
  | [] => true
  | c :: _ =>
    let ds := cs.map direction
    if direction c == 1 then
      ds.all [1, 5, 6, 7, 8, 9, 10, 11].contains && [1, 5].contains (lastDirection cs)
    else if direction c == 2 || direction c == 3 then
      ds.all [2, 3, 4, 5, 6, 7, 8, 9, 10, 11].contains && [2, 3, 4, 5].contains (lastDirection cs) &&
        !(ds.contains 4 && ds.contains 5)
    else false

/-- **Whether a label of any characters may stand in a name.** -/
def isLabel (cs : List Char) : Bool :=
  cs.all isKept && normalize cs == cs && !(cs.head?.any isMark) && joinersFit [] cs

end AssetGraph.Idna
