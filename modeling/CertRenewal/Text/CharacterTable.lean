import CertRenewal.Text.CodePoints

/-!
Classes of characters that decide how a text is shown and what it may begin with.
-/

namespace CertRenewal.CharacterTable

/-- Control characters, format characters, unassigned and private code points,
every separator but the plain space, and the four letters that fill a place in a
Hangul syllable and show nothing. -/
def unprintable : CodePointSet := .ofDistances "
  0 20 5F 22 C 1 2CA 2 6 4 7 1 1 1 14 1 18D 1 26 2 32 2 3 1 37 8 1B 4 6 11 16 1 C0 1 30 2 3B 2 65
  E 3B 2 31 2 F 1 1C 2 1 1 B 5 20 7 4B 1 A1 1 8 2 2 2 16 1 7 1 1 3 4 2 9 2 2 2 4 8 1 4 2 1 5 2 19
  2 3 1 6 4 2 2 16 1 7 1 2 1 2 1 2 2 1 1 5 4 2 2 3 3 1 7 4 1 1 7 11 A 3 1 9 1 3 1 16 1 7 1 2 1 5
  2 A 1 3 1 3 2 1 F 4 2 C 7 7 1 3 1 8 2 2 2 16 1 7 1 2 1 5 2 9 2 2 2 3 7 3 4 2 1 5 2 12 A 2 1 6 3
  3 1 4 3 2 1 1 1 2 3 2 3 3 3 C 4 5 3 3 1 4 2 1 6 1 E 15 5 D 1 3 1 17 1 10 2 9 1 3 1 4 7 2 1 3 1
  2 2 4 2 A 7 16 1 3 1 17 1 A 1 5 2 9 1 3 1 4 7 2 5 3 1 4 2 A 1 3 C D 1 3 1 33 1 3 1 6 4 10 2 1A
  1 3 1 12 3 18 1 9 1 1 2 7 3 1 4 6 1 1 1 8 6 A 2 3 C 3A 4 1D 25 2 1 1 1 5 1 18 1 1 1 17 2 5 1 1
  1 7 1 A 2 4 20 48 1 24 4 27 1 24 1 F 1 D 25 C6 1 1 5 1 2 8F 2 E8 1 4 2 7 1 1 1 4 2 29 1 4 2 21
  1 4 2 7 1 1 1 4 2 F 1 39 1 4 2 43 2 20 3 1A 6 56 2 6 2 280 1 1C 3 59 7 16 9 18 9 14 C D 1 3 1 2
  C 5E 2 A 6 A 6 E 1 B 6 59 7 2B 5 46 A 1F 1 C 4 C 4 1 3 2A 2 5 B 2C 4 1A 6 B 3 3E 2 41 1 1D 2 B
  6 A 6 E 2 2E 2 C 14 4D 1 A6 8 3C 3 F 3 3E 5 2B 2 B 8 2B 5 216 2 6 2 26 2 6 2 8 1 1 1 1 1 1 1 1F
  2 35 1 F 1 E 2 6 1 13 2 3 1 9 11 18 8 2F 11 2 2 1B 1 D 3 22 E 21 F 8C 4 29A 16 B 15 714 2 17E 5
  2D 1 1 5 1 2 38 7 2 E 18 9 7 1 7 1 7 1 7 1 7 1 7 1 7 1 7 1 7E 22 1A 1 59 C D6 1A 10 1 3F 1 56 2
  67 5 2B 1 33 1 2A 1 56 9 30 1 726D 3 37 9 15C 14 B8 8 DD 14 3C 3 A 6 38 8 46 8 C 6 74 B 1E 3 4E
  1 B 4 21 1 37 9 E 2 A 2 67 18 1C A 6 2 6 2 6 9 7 1 7 1 3C 4 7E 2 A 6 2BA4 C 17 4 31 2104 16E 2
  6A 26 7 C 5 5 1A 1 5 1 1 1 2 1 2 1 28A 20 2A 6 33 1 13 1 4 4 5 1 87 4 9F 1 1E 3 6 2 6 2 6 2 3 3
  7 1 7 D 2 2 C 1 1A 1 13 1 2 1 F 2 E 22 7B 5 3 4 2D 3 58 1 D 3 1 2F 2E 82 1D 3 31 F 1C 4 24 9 1E
  5 2B 5 1E 1 25 4 E 2A 9E 2 A 6 24 4 24 4 28 8 34 B C 1 F 1 7 1 2 1 B 1 F 1 7 1 2 3 34 C 137 9
  16 A 8 18 6 1 2A 1 9 45 6 2 1 1 2C 1 2 3 1 2 17 1 48 8 9 30 13 1 2 5 21 3 1B 5 1B 26 38 4 14 2
  32 1 2 5 8 1 3 1 1D 2 3 4 A 7 9 7 40 20 27 4 C 9 36 3 1D 2 1B 5 1A 7 4 C 7 50 49 37 33 D 33 7
  2E 8 A 6 26 3 1D 8 2 D0 1F 1 2A 1 3 2 2 10 6 8 9 21 2E 8 2A 16 1A 26 1C 14 17 9 4E 4 24 9 3E 1
  5 D 19 7 A 6 35 1 12 8 27 9 60 1 14 B 12 1 2F 3E 7 1 1 1 4 1 F 1 B 6 3B 5 A 6 4 1 8 2 2 2 16 1
  7 1 2 1 5 1 A 2 2 2 3 2 1 6 1 5 7 2 7 3 5 B A 1 1 2 1 1 26 1 A 1 1 2 1 1 4 1 A 1 2 8 2 1D 5C 1
  5 1E 48 8 A A6 36 2 26 22 45 B A 6 D 13 3A 6 A 6 14 1C 1B 2 F 4 17 B9 3C 64 53 C 8 2 1 2 8 1 2
  1 1E 1 2 2 C 9 A 46 8 2 2E 2 B 1B 48 8 53 D 49 7 A 56 8 58 22 E A 6 9 1 2D 1 E A 1D 3 20 2 16 1
  E 49 7 1 2 1 2C 3 1 1 2 1 9 8 A 6 6 1 2 1 25 1 2 1 6 7 A 6 2C 4 A F6 19 7 11 1 29 3 1D 55 1 F
  32 D 39B 66 6F 1 5 B C4 A4C 63 D 430 10 16 A F9B 5 247 1AB9 3A 6C6 239 7 1F 1 A 4 51 1 A 6 1E 2
  6 A 46 A A 1 7 1 15 5 13 1B0 3A C6 5B 5 19 2 19 2C 4B 4 39 7 11 40 5 B 7 9 1CD6 29 20 61 73
  21FD 4 1 7 1 2 1 123 F 1 1D 3 2 1 E 4 8 18C 904 6B 5 D 3 9 7 A 2 4 F60 FD 3 1B4 6 17 F 11 F 2E
  2 17 9 74 3C F6 A 27 2 4A 8 70 15 46 7A 14 C 14 C 57 9 19 87 55 1 47 1 2 2 1 2 2 2 4 1 C 1 1 1
  7 1 41 1 4 2 8 1 7 1 1C 1 4 1 5 1 1 3 7 1 154 2 124 2 2BE F 5 1 F 450 1F 6 6 D5 7 1 11 2 7 1 2
  1 5 5 3E 21 1 70 2D 3 E 2 A 4 2 140 1F 11 3A 5 1 1D0 2A D6 2B 4 1 C0 1F 1 16 8 2 E0 7 1 4 1 2 1
  F 1 C5 2 10 29 4C 4 A 4 2 311 44 4C 3D C2 4 1 1B 1 2 1 1 2 1 1 A 1 4 1 1 1 1 6 1 4 1 1 1 1 1 1
  3 1 2 1 1 2 1 1 1 1 1 1 1 1 1 1 2 1 1 2 4 1 7 1 4 1 4 1 1 1 A 1 11 5 3 1 5 1 11 34 2 10E 2C 4
  64 C F 2 F 1 F 1 25 A AE 38 1D D 2C 4 9 7 2 E 6 9A 3D9 3 11 3 D 3 DA 6 C 4 1 F C 4 38 8 A 6 28
  8 1E 2 C 4 2 E 9 27 158 8 E 2 D 3 B 3 39 1 1 4 10 2 C 4 A 7 93 1 67 405 A6E0 20 111E 2 168E 2
  1D31 F 26E 9A2 21E 5E2 134B 5 212A ACC86 F0"

/-- Characters that extend the one before them: combining marks and the like, but
not the half-width sound marks of Katakana, which are shown on their own. -/
def extending : CodePointSet := .ofDistances "
  300 70 113 7 107 2D 1 1 1 2 1 2 1 1 48 B 30 15 10 1 65 7 2 6 2 2 1 4 23 1 1E 1B 5B B 3A 9 9 1
  18 4 1 9 1 3 1 5 2B 3 3B 9 2A 18 1 20 37 1 1 1 4 8 4 1 3 7 A 2 1D 1 3A 1 1 1 2 4 8 1 9 1 A 2 1A
  1 2 2 39 1 4 2 4 2 2 3 3 1 1E 2 3 1 B 2 39 1 4 5 1 2 4 1 14 2 16 6 1 1 3A 1 1 2 1 4 8 1 7 3 A 2
  1E 1 3B 1 1 1 C 1 9 1 28 1 3 1 37 1 1 3 5 3 1 4 7 2 B 2 1D 1 3A 1 2 2 1 1 3 3 1 4 7 2 B 2 1C 2
  39 2 1 1 2 4 8 1 9 1 A 2 1D 1 48 1 4 1 2 3 1 1 8 1 51 1 2 7 C 8 62 1 2 9 B 7 49 2 1B 1 1 1 1 1
  37 E 1 5 1 2 5 B 1 24 9 1 66 4 1 6 1 2 2 2 19 2 4 3 10 4 D 1 2 2 6 1 F 1 2BF 3 3B2 4 1C 3 1D 2
  1E 2 40 2 1 7 8 1 2 B 9 1 2D 3 1 1 75 2 22 1 76 3 4 2 9 1 6 3 DB 2 2 1 3A 1 1 7 1 1 1 1 2 8 6 A
  2 1 30 2E 2 C 14 4 30 A 4 3 26 9 C 2 20 4 2 6 38 1 1 2 3 1 1 5 38 8 2 2 98 3 1 D 1 7 4 1 6 1 3
  2 C6 40 20C 1 C3 21 BFE 3 8D 1 60 20 22A 6 69 2 75D4 4 1 A 20 2 50 2 110 1 3 1 4 1 19 2 5 1 97
  2 1A 12 D 1 26 8 19 B 1 1 2C 3 30 1 2 4 2 2 2 1 24 1 43 6 2 2 2 2 C 1 8 1 2F 1 33 1 1 3 2 2 5 2
  1 1 2A 2 8 1 EE 1 2 1 4 1 4F30 1 2E1 10 10 10 3CD 1 E2 1 95 5 686 3 1 2 5 4 28 3 4 1 A5 2 23D 4
  41 5 13D 2 4D 6 46 B 31 4 7B 1 36 F 29 1 2 2 A 3 31 4 2 2 7 1 3D 3 24 5 1 8 3E 1 C 2 34 9 1 1 8
  4 2 1 5F 3 2 4 6 1 2 1 9D 1 3 8 15 2 39 2 1 1 1 1 C 1 9 1 E 7 3 5 43 1 2 6 1 1 2 1 1 3 4 3 1 1
  E 2 55 8 2 3 1 1 17 1 51 1 2 6 1 1 2 1 1 2 1 2 EB 1 2 4 6 2 1 2 1B 2 55 8 2 1 1 2 6A 1 1 1 2 8
  65 1 1 1 2 4 1 5 103 9 1 2 F5 1 A 4 4 1 90 4 2 2 4 1 20 A 28 6 2 4 8 1 9 6 2 3 2E D 1 2 C6 1 1
  3 1 1 C9 7 1 6 1 1 52 16 2 7 1 2 1 2 7A 6 3 1 1 2 1 7 1 1 48 2 3 1 1 1 15B 2 B 2 34 5 5 3 17 1
  14E5 1 6 F 2CC8 C 3 3 9C0 5 3B 7 418 1 3F 4 51 1 B 2 4CAB 2 1261 2E 2 17 21E 5 3 6 8 8 2 7 1E 4
  94 3 7BB 37 4 32 8 1 E 1 16 5 1 F 550 7 1 11 2 7 1 2 1 5 64 1 A0 7 177 1 3D 4 1FC 4 FE 2 F3 1 2
  1 7 2 5 1 1DA 7 6D 7 C16D5 60 80 F0"

/-- Letters and what counts as letters in words, and numbers of all kinds. -/
def alphanumeric : CodePointSet := .ofDistances "
  30 A 7 1A 6 1A 2F 1 7 2 1 1 3 2 1 3 1 17 1 1F 1 1CA 4 C E 5 7 1 1 1 56 1 1D 12 1 2 2 4 1 1 6 1
  1 3 1 1 1 14 1 53 1 8B 8 A6 1 26 2 1 6 29 27 E 1 1 1 2 1 2 1 1 8 1B 4 4 1D B 5 38 1 11 4 66 1 8
  4 8 4 10 2 1 10 30 D 65 E 2B 9 2 4 1 5 18 2 13 13 19 7 B 5 18 1 7 7 1 8 2A A C 3 7 6 4C 1 10 1
  3 4 F 2 A 1 13 1 8 2 2 2 16 1 7 1 1 3 4 3 8 2 2 2 2 1 1 8 1 4 2 1 5 2 C 2 6 2 1 4 3 1 6 4 2 2
  16 1 7 1 2 1 2 1 2 4 5 4 2 2 2 4 1 7 4 1 1 7 10 B 3 1 9 1 3 1 16 1 7 1 2 1 5 3 9 1 3 1 2 3 1 F
  4 2 A 9 4 4 3 1 8 2 2 2 16 1 7 1 2 1 5 3 8 2 2 2 2 9 2 4 2 1 5 2 A 1 7 A 2 1 6 3 3 1 4 3 2 1 1
  1 2 3 2 3 3 3 C 4 5 3 3 1 3 3 1 6 1 E D D D 1 3 1 17 1 10 3 8 1 3 1 3 8 2 1 3 1 2 2 4 2 A 8 7 1
  4 1 8 1 3 1 17 1 A 1 5 3 8 1 3 1 3 8 2 5 3 1 4 2 A 1 3 C D 1 3 1 29 2 8 1 3 1 3 1 1 5 10 2 13 1
  6 1 3 1 12 3 18 1 9 1 1 2 7 8 6 1 1 1 8 6 A 2 2 D 3A 5 7 6 1 2 A 27 2 1 1 1 5 1 18 1 1 1 13 1 3
  2 5 1 1 6 1 2 A 2 4 20 1 1F 14 C 8 1 24 4 13 4 10 1 24 43 37 1 1 2 F 6 4E 2 26 1 1 5 1 2 2B 1
  14D 1 4 2 7 1 1 1 4 2 29 1 4 2 21 1 4 2 7 1 1 1 4 2 F 1 39 1 4 2 43 E 14 3 10 10 56 2 6 3 26C 2
  11 1 1A 5 4B 3 B 7 14 B 15 C 14 C D 1 3 1 2 C 34 2 13 E 1 4 1 3 A 6 A 16 A 6 59 7 2B 5 46 A 1F
  1 C 4 9 D 28 2 5 B 2C 4 1A 6 B 25 1C 4 3F 2 14 B A 6 A D 1 17 2 B 3 31 34 1 F 1 8 3 A 26 2A 2
  3A 1 B E 37 9 A 3 31 2 B 5 2B 2 3 29 4 1 6 1 2 3 1 5 C0 13 22 B 116 2 6 2 26 2 6 2 8 1 1 1 1 1
  1 1 1F 2 35 1 7 1 1 3 3 1 7 3 4 2 6 4 D 5 3 1 7 73 2 2 6 5 B 6 D 65 1 4 1 2 A 1 1 3 5 6 1 1 1 1
  1 1 4 1 B 2 4 5 5 4 1 1 3A 2D6 3C 1A 4A 276 1E 46C E5 6 4 3 2 9 1 2 26 1 1 5 1 2 38 7 1 10 17 9
  7 1 7 1 7 1 7 1 7 1 7 1 7 1 7 1 20 2F 1 1D5 3 19 9 7 5 2 5 4 56 6 3 1 5A 1 4 5 2B 1 5E 3 4 A 20
  30 10 20 A 1E 8 1 F 20 A 27 F 140 19C0 40 568D 43 2E 2 10D 3 1C 14 2F 5 8 3 71 27 9 2 67 2 52
  14 15 1 21 8 6 A 34 C 44 1 1 A A 18 6 3 1 1 2E 5 23 D 1D 3 33 1 C F B 6 1F 1 37 9 E 2 A 6 17 3
  45 1 1 1 1 18 3 2 10 2 4 B 6 2 6 2 6 9 7 1 7 1 2B 1 E 6 7B 5 A 6 2BA4 C 17 4 31 2104 16E 2 6A
  26 7 C 5 5 C 1 D 1 5 1 1 1 2 1 2 1 6C 21 16B 12 40 2 36 28 C 74 5 1 87 13 A 7 1A 6 1A B 59 3 6
  2 6 2 6 2 3 23 C 1 1A 1 13 1 2 1 F 2 E 22 7B C 2D C 39 11 2 F4 1D 3 31 10 1B 4 24 9 1E 5 2B 5
  1E 2 24 4 8 1 5 2A 9E 2 A 6 24 4 24 4 28 8 34 C B 1 F 1 7 1 2 1 B 1 F 1 7 1 2 3 34 C 137 9 16 A
  8 18 6 1 2A 1 9 45 6 2 1 1 2C 1 2 3 1 2 17 2 1F 2 26 8 9 30 13 1 2 5 21 4 1A 6 1A 26 38 4 14 2
  32 1 2 5 8 1 3 1 1D A 9 17 1F 1 20 20 8 1 1C 6 5 10 36 A 16 2 1B 5 1A 17 7 50 49 37 33 D 33 7
  2E 8 A 6 26 3 1 5 17 DA 1F 1 2A 1 2 3 2 10 6 32 3 3 28 8 16 B 4 1B 12 2E 1C 14 17 9 46 C 1E 1 5
  A 39 9 1 D 19 7 A 6 33 3 A 4 4 8 23 3 1 9 40 1 4 9 D 1 1 4 14 B 12 1 22 2 1 6 4 3E 7 1 1 1 4 1
  F 1 A 7 39 7 A 6 4 1 8 2 2 2 16 1 7 1 2 1 5 3 8 2 2 2 2 3 1 6 1 5 7 1C A 1 1 2 1 1 26 1 A 1 1 2
  1 1 4 1 2 3 1 1 1 2C 42 1 3 1 4 5 A 5 3 1E 42 2 2 1 1 8 A A6 36 2 7 19 6 22 3F 1 1 3 1 B A 26
  36 2 1 7 A 6 14 1C 1B 2 E 5 C 4 7 B9 39 67 53 C 8 2 1 2 8 1 2 1 1E 1 2 2 2 2 4 D A 46 8 2 2E 2
  6 1 1 1 2 1B 33 2 A 11 48 5 1 12 49 67 8 58 21 F A 6 9 1 2D 1 7 1 1 F 1D 5 1E 2 16 1 E 49 7 1 2
  1 2C 3 1 1 2 1 3 1 1 2 2 8 A 6 6 1 2 1 25 1 2 1 4 1 1 7 A 6 2C 4 A F6 17 9 11 1 29 3 3 F A 56 1
  F 15 2B 39A 66 6F 11 C4 A4C 61 F 430 11 6 19 F9B 5 247 1AB9 2F 1 A 6C6 239 7 1F 1 A 6 4F 1 A 6
  1E 12 30 10 4 C A 1 7 1 15 5 13 1B0 2D 3 A C6 57 9 19 2 19 2C 4B 4 39 7 11 40 2 1 1 C 7 9 1CD6
  29 20 61 73 21FD 4 1 7 1 2 1 123 F 1 1D 3 2 1 E 4 8 18C 904 6B 5 D 3 9 7 A 4 1 1051 A 5C6 14 C
  14 6C 19 87 55 1 47 1 2 2 1 2 2 2 4 1 C 1 1 1 7 1 41 1 4 2 8 1 7 1 1C 1 4 1 5 1 1 3 7 1 154 2
  19 1 19 1 1F 1 19 1 1F 1 19 1 1F 1 19 1 1F 1 19 1 8 2 32 700 1F 6 6 D5 7 1 11 2 7 1 2 1 5 5 3E
  21 1 70 2D A 7 2 A 4 1 141 1E 12 2C 4 A 1D6 1C 4 A D6 1E 2 B C5 1F 1 16 8 2 E0 7 1 4 1 2 1 F 1
  C5 2 9 30 44 3 1 3 1 4 A 317 3B 1 3 1 4 4C 2D 1 F C2 4 1 1B 1 2 1 1 2 1 1 A 1 4 1 1 1 1 6 1 4 1
  1 1 1 1 1 3 1 2 1 1 2 1 1 1 1 1 1 1 1 1 1 2 1 1 2 4 1 7 1 4 1 4 1 1 1 A 1 11 5 3 1 5 1 11 244 D
  23 1A 6 1A 6 1A A66 A 406 A6E0 20 111E 2 168E 2 1D31 F 26E 9A2 21E 5E2 134B 5 212A"

/-- Combining marks, with a width of their own or without. -/
def marks : CodePointSet := .ofDistances "
  300 70 113 7 107 2D 1 1 1 2 1 2 1 1 48 B 30 15 10 1 65 7 2 6 2 2 1 4 23 1 1E 1B 5B B 3A 9 9 1
  18 4 1 9 1 3 1 5 2B 3 3B 9 2A 18 1 21 36 3 1 12 1 7 A 2 1D 3 38 1 1 7 2 2 2 3 9 1 A 2 1A 1 2 3
  38 1 1 5 4 2 2 3 3 1 1E 2 3 1 B 3 38 1 1 8 1 3 1 3 14 2 16 6 1 3 38 1 1 7 2 2 2 3 7 3 A 2 1E 1
  3B 5 3 3 1 4 9 1 28 5 37 1 1 7 1 3 1 4 7 2 B 2 1D 3 38 1 1 7 1 3 1 4 7 2 B 2 F 1 C 4 37 2 1 7 1
  3 1 4 9 1 A 2 1D 3 46 1 4 6 1 1 1 8 12 2 3D 1 2 7 C 8 62 1 2 9 B 7 49 2 1B 1 1 1 1 1 4 2 31 14
  1 2 5 B 1 24 9 1 64 14 17 4 4 3 1 3 2 7 3 4 D C 1 1 A 4 2BF 3 3B2 4 1C 3 1D 2 1E 2 40 20 9 1 2D
  3 1 1 75 2 22 1 76 C 4 C DB 5 39 A 1 1D 2 1 30 2E 2 C 14 5 2F 11 26 9 C 3 1E D 38 E 30 14 98 3
  1 15 4 1 6 1 2 3 C6 40 2D0 21 BFE 3 8D 1 60 20 22A 6 69 2 75D4 4 1 A 20 2 50 2 110 1 3 1 4 1 17
  5 4 1 53 2 32 12 1A 12 D 1 26 8 19 D 2C 4 2F E 24 1 43 E C 1 8 2 2D 3 32 1 1 3 2 2 5 2 1 1 29 5
  5 2 EC 8 1 2 4F30 1 2E1 10 10 10 3CD 1 E2 1 95 5 686 3 1 2 5 4 28 3 4 1 A5 2 23D 4 41 5 13D 2
  4D 6 46 B 31 4 7A 3 35 F 29 1 2 2 A 4 2D B 7 1 3D 3 24 E 10 2 2C 1 C 3 30 E 8 4 1 2 5C C 6 1 2
  1 9D C 15 4 37 2 1 7 2 2 2 3 9 1 A 2 2 7 3 5 43 9 1 1 2 1 1 4 1 5 1 1 E 2 52 12 17 1 51 14 EB 7
  2 9 1B 2 52 11 6A D 65 F 100 F F5 6 1 2 2 4 1 1 1 2 8D 7 2 7 3 1 1C A 28 7 1 4 8 1 9 B 2E 10 C6
  8 C7 8 1 8 52 16 1 E 7A 6 3 1 1 2 1 7 1 1 42 5 1 2 1 5 15B 4 9 2 1 1 30 7 3 5 17 1 14E5 1 6 F
  2CC8 12 9C0 5 3B 7 418 1 1 37 7 4 51 1 B 2 4CAB 2 1261 2E 2 17 21E 5 3 6 8 8 2 7 1E 4 94 3 7BB
  37 4 32 8 1 E 1 16 5 1 F 550 7 1 11 2 7 1 2 1 5 64 1 A0 7 177 1 3D 4 1FC 4 FE 2 F3 1 2 1 7 2 5
  1 1DA 7 6D 7 C17B5 F0"

end CertRenewal.CharacterTable
