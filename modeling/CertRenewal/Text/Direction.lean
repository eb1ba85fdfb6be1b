import CertRenewal.Text.CodePoints

/-!
The directions in which characters are written, and the labels whose order on a
line is clear whatever stands around them.
-/

namespace CertRenewal

/-- How a character takes part in the order on a line. -/
inductive Direction
  | fromLeft
  | fromRight
  /-- European numbers, which are written from left to right everywhere. -/
  | european
  | arabic
  | mark
  | neutral
deriving DecidableEq, Repr

namespace Direction

def ofLetter : List Char → Direction
  | ['L'] => fromLeft
  | ['R'] => fromRight
  | ['E'] => european
  | ['A'] => arabic
  | ['M'] => mark
  | _ => neutral

def table : CodePointMap Direction := .ofRuns ofLetter "
  N*30 E*A N*7 L*1A N*6 L*1A N*2F L N*7 E*2 N L N*3 E L N*5 L*17 N L*1F N L*1C1 N*2 L*7 N*E L*2
  N*E L*5 N*9 L N*11 M*70 L*4 N*2 L*8 N L*5 N*2 L N L*6E N L*8C M*7 L*100 N L*2 N*3 R M*2D R M R
  M*2 R M*2 R M R*38 A*6 N*2 R N*2 R N R N*2 M*B R*30 M*15 A*A N A*2 R*3 M R*65 M*7 A N M*6 R*2
  M*2 N M*4 R*2 E*A R*17 M R*1E M*1B R*5B M*B R*3A M*9 R*2 N*4 R*3 M R*18 M*4 R M*9 R M*3 R M*5
  R*2B M*3 R*34 A*2 R*5 M*9 R*2A M*18 A M*20 L*37 M L M L*4 M*8 L*4 M L*3 M*7 L*A M*2 L*1D M L*3A
  M L*4 M*4 L*8 M L*14 M*2 L*E N*2 L*7 N L*2 M L*2 M*2 L*39 M L*4 M*2 L*4 M*2 L*2 M*3 L*3 M L*1E
  M*2 L*3 M L*B M*2 L*39 M L*4 M*5 L M*2 L*4 M L*14 M*2 L*D N L*8 M*6 L M L*3A M L*2 M L M*4 L*8
  M L*7 M*2 L*B M*2 L*1E M L*3D M L*C M L*25 N*8 L*5 M L*3 M L*37 M L M*3 L*5 M*3 L M*4 L*7 M*2
  L*B M*2 L*14 N*7 L*2 M L*3A M L*F M*2 L*14 M*2 L*1C M*2 L*39 M*2 L*4 M*4 L*8 M L*14 M*2 L*1D M
  L*48 M L*7 M*3 L M L*5A M L*2 M*7 L*4 N L*7 M*8 L*62 M L*2 M*9 L*B M*7 L*49 M*2 L*1B M L M L M
  N*4 L*33 M*E L M*5 L M*2 L*5 M*B L M*24 L*9 M L*66 M*4 L M*6 L M*2 L*2 M*2 L*19 M*2 L*4 M*3
  L*10 M*4 L*D M L*2 M*2 L*6 M L*F M L*2BF M*3 L*30 N*A L*66 N L*27F N L*1A N*2 L*75 M*3 L*1D M*2
  L*1E M*2 L*1E M*2 L*40 M*2 L M*7 L*8 M L*2 M*B L*7 N L M L*12 N*A L*6 N*B M*3 N M L*75 M*2 L*22
  M L*76 M*3 L*4 M*2 L*9 M L*6 M*3 L*4 N L*3 N*2 L*98 N*22 L*17 M*2 L*2 M L*3A M L M*7 L M L M
  L*2 M*8 L*6 M*A L*2 M L*30 M*2E L*2 M*C L*14 M*4 L*30 M L M*5 L M L*5 M L*28 M*9 L*C M*2 L*20
  M*4 L*2 M*2 L M*3 L*38 M L M*2 L*3 M L M*3 L*3A M*8 L*2 M*2 L*98 M*3 L M*D L M*7 L*4 M L*6 M
  L*3 M*2 L*C6 M*40 L*1BD N L N*3 L*B N*3 L*D N*3 L*D N*3 L*D N*2 L N*E L R N*60 E L*3 E*6 N*5 L
  E*A N*5 L*11 N*30 M*21 L*F N*2 L N*4 L N*2 L*A N L N*3 L*5 N*6 L N L N L N L*4 N L*B N*2 L*4
  N*5 L*5 N*4 L*2 N*10 L*29 N*3 L*4 N*1A6 L*45 N*1A L N*94 L*16 N*B L*15 N*28 E*14 L*4E N*1C2 L
  N*153 L*100 N*274 L*2 N*8A L*E5 N*6 L*4 M*3 L*7 N*7 L*7F M L*60 M*20 N*5E L*22 N*1A L N*59 L*C
  N*D6 L*1A N*15 L*3 N*19 L*9 M*4 L*2 N L*5 N*2 L*5 N*3 L*59 M*2 N*2 L*3 N L*5A N L*C4 N*26 L*9 N
  L*2D N*2 L*31 N*10 L*1C N*3 L*32 N*F L*C N*4 L*A7 N*4 L*63 N*2 L*1F N L*19C0 N*40 L*5690 N*37
  L*146 N*3 L*5F M*4 N M*A N*2 L*1E M*2 L*50 M*2 L*E N*22 L*66 N L*79 M L*3 M L*4 M L*19 M*2 L
  N*4 M L*B N*2 L*3A N*4 L*4C M*2 L*1A M*12 L*D M L*26 M*8 L*19 M*B L*2E M*3 L*30 M L*2 M*4 L*2
  M*2 L*27 M L*43 M*6 L*2 M*2 L*2 M*2 L*C M L*8 M L*2F M L*33 M L M*3 L*2 M*2 L*5 M*2 L M L*2A
  M*2 L*8 M L*73 N*2 L*79 M L*2 M L*4 M L*4F2F R M R*A N R*99 N*10 R*16B N*12 R*40 N*2 R*36 N*28
  R*D N*3 M*10 N*A L*6 M*10 N*23 L N*13 L N*4 L*4 R*8F N L N*F E*A N*7 L*1A N*6 L*1A N*B L*7A N*7
  L N*7 L N*10 L*101 N L*3E N*4D L*3 N*D L*3 N L*5C M L*E2 M E*1B L*7A M*5 L*485 R*11F N R*E1 M*3
  R M*2 R*5 M*4 R*28 M*3 R*4 M R*A5 M*2 R*52 N*7 R*1E4 M*4 R*8 A*A R*6 A*A R*1F M*5 N R*F1 A*1F
  R*2C M*2 R*23 N*9 R*21 M*6 R*46 M*B R*31 M*4 R*7A L M L*36 M*F L*B N*14 L*A M L*2 M*2 L*A M*3
  L*31 M*4 L*2 M*2 L*7 M L*3D M*3 L*24 M*5 L M*8 L*3E M L*C M*2 L*34 M*9 L*A M*4 L*2 M L*5F M*3
  L*2 M L M*2 L*6 M L*2 M L*9D M L*3 M*8 L*15 M*2 L*39 M*2 L*3 M L*25 M*7 L*3 M*5 L*46 M*6 L*D M
  L M L M L*E M*2 L*55 M*8 L*2 M*3 L M L*17 M L*54 M*6 L M L*4 M*2 L M*2 L*EE M*4 L*6 M*2 L M*2
  L*1B M*2 L*55 M*8 L*2 M L M*2 L*1F N*D L*3E M L M L*2 M*6 L M L*65 M L M L*2 M*4 L M*5 L*103
  M*9 L M*2 L*100 M*2 L M L*4 M L*90 M*4 L*2 M*2 L*4 M L*20 M*6 L*2 M*2 L*28 M*6 L*2 M*4 L*8 M
  L*9 M*6 L*2 M*3 L*2E M*D L M*2 L*C6 M L M*3 L M L*C9 M*7 L M*6 L*54 M*16 L*2 M*7 L M*2 L M*2
  L*7A M*6 L*3 M L M*2 L M*7 L M L*48 M*2 L*3 M L M L*15B M*2 L*B M*2 L*34 M*5 L*5 M L M L*17 M
  L*7A N*1D L*144E M L*6 M*F L*2CC8 M*C L*3 M*3 L*9C0 M*5 L*3B M*7 L*418 M L*3F M*4 L*4F N L M
  L*4CB8 M*2 L N*4 L*F5C N*F0 E*A N*3 L*3 N*1B4 L*6 N*17 L*F N*11 L*F M*2E L*2 M*17 L*220 M*3 L*9
  N*8 M*8 L*2 M*7 L*1E M*4 L*3B N*2 L*15 N*42 M*3 N L*BA N*57 L*384 N L*39 N L*39 N L*39 N L*39 N
  L*A E*32 L*200 M*37 L*4 M*32 L*8 M L*E M L*16 M*5 L M*F L*550 M*7 L M*11 L*2 M*7 L M*2 L M*5
  L*64 M L*A0 M*7 L*177 M L*3D M*4 L*F N L*1EC M*4 L*FE M*2 L*F3 M L*2 M L*7 M*2 L*5 M L*10A R*D0
  M*7 R*6D M*7 R*5A5 N*2 R*10E N*2C L*4 N*64 L*C N*F L*2 N*F L N*F L N*25 L*A E*B N*5 L*1F N L*3A
  N*6 L*3D N L*B2 N*6 L*9A N*3D9 L*3 N*11 L*3 N*D L*3 N*DA L*6 N*C L*4 N L*F N*C L*4 N*38 L*8 N*A
  L*6 N*28 L*8 N*1E L*2 N*C L*4 N*2 L*E N*9 L*27 N*158 L*8 N*E L*2 N*D L*3 N*B L*3 N*39 L N L*4
  N*10 L*2 N*C L*4 N*A L*7 N*93 L N*5C E*A N L*403 N*2 L*FFFE N*2 L*FFFE N*2 L*FFFE N*2 L*FFFE
  N*2 L*FFFE N*2 L*FFFE N*2 L*FFFE N*2 L*FFFE N*2 L*FFFE N*2 L*FFFE N*2 L*FFFE N*2 L*FFFE N*102
  M*F0 N*E10 L*EFFE N*2 L*FFFE N*2 L*FFFE N*2"

def ofChar (char : Char) : Direction := table.getD char.toNat neutral

/-- Whether a text with such a character has parts from right to left. -/
def turns (direction : Direction) : Bool := direction = fromRight || direction = arabic

/-- The directions behind the first one, without marks at the end. -/
def core (rest : List Direction) : List Direction :=
  (rest.reverse.dropWhile (· = mark)).reverse

/-- A label that is written from left to right has nothing in it from the other
side and ends with a letter or a number, apart from marks. -/
def isClearFromLeft (rest : List Direction) : Bool :=
  rest.all (fun direction => !direction.turns)
    && ((core rest).getLast?.getD fromLeft = fromLeft
      || (core rest).getLast? = some european)

/-- A label that is written from right to left has no letters from the other side
in it, ends with a letter or a number, apart from marks, and does not mix the two
kinds of numbers. -/
def isClearFromRight (rest : List Direction) : Bool :=
  rest.all (· ≠ fromLeft)
    && [fromRight, european, arabic].contains ((core rest).getLast?.getD fromRight)
    && !(rest.contains european && rest.contains arabic)

/-- Whether the order of a label is clear. It begins with a letter. -/
def isClear : List Direction → Bool
  | [] => true
  | fromLeft :: rest => isClearFromLeft rest
  | fromRight :: rest => isClearFromRight rest
  | _ => false

end Direction

end CertRenewal
