import CertRenewal.Text.Composition

/-!
How letters join their neighbours, and where the two invisible joiners may stand:
where they change how letters are joined.
-/

namespace CertRenewal

inductive Joining
  | nowhere
  | ahead
  | behind
  | bothSides
  /-- A mark, across which its neighbours join. -/
  | across
deriving DecidableEq, Repr

namespace Joining

def ofLetter : List Char → Joining
  | ['L'] => ahead
  | ['R'] => behind
  | ['D'] => bothSides
  | ['T'] => across
  | _ => nowhere

def table : CodePointMap Joining := .ofRuns ofLetter "
  -*AD T -*252 T*70 -*113 T*7 -*107 T*2D - T - T*2 - T*2 - T -*48 T*B - T -*3 D - R*4 D R D R D*5
  R*4 D*D - D*7 R D*2 T*15 -*E D*2 T R*3 - R*3 D*10 R*12 D*26 R D*2 R*9 D R D R D*2 R*2 - R T*7
  -*2 T*6 -*2 T*2 - T*4 R*2 -*A D*3 -*2 D -*F T R T D*3 R*5 D*4 R D*9 R D R D R D*2 R T*1B -*2 R
  D*B R*3 D*F R*2 D*4 R D R*2 D*3 R*2 D*6 -*26 T*B -*19 D*21 T*9 -*9 T -*18 T*4 - T*9 - T*3 - T*5
  -*12 R D*5 R*2 D R D*A R D R*3 T*3 -*4 D - D*4 - R D R*2 -*5 R*13 -*3 D -*2 D*5 R D -*7 T*9 D*A
  R*3 - R D*2 R*2 D*6 R D*F - T*18 - T*20 -*37 T - T -*4 T*8 -*4 T -*3 T*7 -*A T*2 -*1D T -*3A T
  -*4 T*4 -*8 T -*14 T*2 -*1A T -*2 T*2 -*39 T -*4 T*2 -*4 T*2 -*2 T*3 -*3 T -*1E T*2 -*3 T -*B
  T*2 -*39 T -*4 T*5 - T*2 -*4 T -*14 T*2 -*16 T*6 - T -*3A T -*2 T - T*4 -*8 T -*7 T*2 -*B T*2
  -*1E T -*3D T -*C T -*32 T -*3 T -*37 T - T*3 -*5 T*3 - T*4 -*7 T*2 -*B T*2 -*1D T -*3A T -*2 T
  -*6 T -*5 T*2 -*14 T*2 -*1C T*2 -*39 T*2 -*4 T*4 -*8 T -*14 T*2 -*1D T -*48 T -*7 T*3 - T -*5A
  T -*2 T*7 -*C T*8 -*62 T -*2 T*9 -*B T*7 -*49 T*2 -*1B T - T - T -*37 T*E - T*5 - T*2 -*5 T*B -
  T*24 -*9 T -*66 T*4 - T*6 - T*2 -*2 T*2 -*19 T*2 -*4 T*3 -*10 T*4 -*D T -*2 T*2 -*6 T -*F T
  -*2BF T*3 -*3B2 T*3 -*1D T*2 -*1E T*2 -*1E T*2 -*40 T*2 - T*7 -*8 T -*2 T*B -*9 T -*29 D -*3
  T*3 - T -*10 D*59 -*C T*2 D*22 T D -*75 T*3 -*4 T*2 -*9 T -*6 T*3 -*DB T*2 -*2 T -*3A T - T*7 -
  T - T -*2 T*8 -*6 T*A -*2 T -*30 T*2E -*2 T*C -*14 T*4 -*30 T - T*5 - T -*5 T -*28 T*9 -*C T*2
  -*20 T*4 -*2 T*2 - T*3 -*38 T - T*2 -*3 T - T*3 -*3A T*8 -*2 T*2 -*98 T*3 - T*D - T*7 -*4 T -*6
  T -*3 T*2 -*C6 T*40 -*20B T -*2 T*2 -*1A T*5 -*31 T*5 -*5 T*6 -*60 T*21 -*BFE T*3 -*8D T -*60
  T*20 -*22A T*4 -*6B T*2 -*75D4 T*4 - T*A -*20 T*2 -*50 T*2 -*110 T -*3 T -*4 T -*19 T*2 -*5 T
  -*13 D*32 L -*51 T*2 -*1A T*12 -*D T -*26 T*8 -*19 T*B -*2E T*3 -*30 T -*2 T*4 -*2 T*2 -*27 T
  -*43 T*6 -*2 T*2 -*2 T*2 -*C T -*8 T -*2F T -*33 T - T*3 -*2 T*2 -*5 T*2 - T -*2A T*2 -*8 T
  -*EE T -*2 T -*4 T -*4F30 T -*2E1 T*10 -*10 T*10 -*CF T -*F9 T*3 -*201 T -*E2 T -*95 T*5 -*686
  T*3 - T*2 -*5 T*4 -*28 T*3 -*4 T -*80 D*5 R - R - R*2 -*2 L R*5 D*4 L D*5 R D*3 R -*2 R T*2 -*4
  D*4 R -*90 D R D R*3 D*3 R D*2 R D R*2 D R -*17 R*4 D*2 -*151 L D*21 R D T*4 -*41 T*5 -*13D T*2
  -*15 R D*2 - D*2 -*32 T*6 -*30 D*3 R D*11 - T*B D*3 R -*1B D*4 R*2 D*C T*4 -*2A D - D*2 R*3 - D
  R*2 D*2 R D*2 - D R*2 D -*4 R D L -*35 T -*36 T*F -*29 T -*2 T*2 -*A T*3 -*31 T*4 -*2 T*2 -*7 T
  -*3D T*3 -*24 T*5 - T*8 -*3E T -*C T*2 -*34 T*9 -*A T*4 -*2 T -*5F T*3 -*2 T - T*2 -*6 T -*2 T
  -*9D T -*3 T*8 -*15 T*2 -*39 T*2 -*3 T -*25 T*7 -*3 T*5 -*46 T*6 -*D T - T - T -*E T*2 -*55 T*8
  -*2 T*3 - T -*17 T -*54 T*6 - T -*4 T*2 - T*2 -*EE T*4 -*6 T*2 - T*2 -*1B T*2 -*55 T*8 -*2 T -
  T*2 -*6A T - T -*2 T*6 - T -*65 T - T -*2 T*4 - T*5 -*103 T*9 - T*2 -*100 T*2 - T -*4 T -*90
  T*4 -*2 T*2 -*4 T -*20 T*A -*28 T*6 -*2 T*4 -*8 T -*9 T*6 -*2 T*3 -*2E T*D - T*2 -*C6 T - T*3 -
  T -*C9 T*7 - T*6 - T -*52 T*16 -*2 T*7 - T*2 - T*2 -*7A T*6 -*3 T - T*2 - T*7 - T -*48 T*2 -*3
  T - T -*15B T*2 -*B T*2 -*34 T*5 -*5 T - T -*17 T -*14D5 T*11 -*6 T*F -*2CC8 T*C -*3 T*3 -*9C0
  T*5 -*3B T*7 -*418 T -*3F T*4 -*51 T -*4CB8 T*2 - T*4 -*125C T*2E -*2 T*17 -*220 T*3 -*9 T*10
  -*2 T*7 -*1E T*4 -*94 T*3 -*7BB T*37 -*4 T*32 -*8 T -*E T -*16 T*5 - T*F -*550 T*7 - T*11 -*2
  T*7 - T*2 - T*5 -*64 T -*A0 T*7 -*177 T -*3D T*4 -*1FC T*4 -*FE T*2 -*F3 T -*2 T -*7 T*2 -*5 T
  -*1DA T*7 -*29 D*44 T*8 -*C16B5 T -*1E T*60 -*80 T*F0 -*2FE10"

def ofChar (char : Char) : Joining := table.getD char.toNat nowhere

/-- How the nearest character joins that is not only a mark. -/
def nearest (chars : List Char) : Joining :=
  ((chars.map ofChar).find? (· ≠ across)).getD nowhere

def nonJoiner : Char := '\u200c'

def joiner : Char := '\u200d'

/-- Whether a joiner may stand between the characters before it, the nearest one
first, and those after it: behind a sign that takes the vowel away, and if it
keeps letters apart also between letters that would join. -/
def mayStand (char : Char) (before after : List Char) : Bool :=
  (before.head?.map Composition.classOf = some Composition.vowelKiller)
    || char = nonJoiner
      && [ahead, bothSides].contains (nearest before)
      && [behind, bothSides].contains (nearest after)

def areInPlace (before : List Char) : List Char → Bool
  | [] => true
  | char :: after =>
    (!(char = nonJoiner || char = joiner) || mayStand char before after)
      && areInPlace (char :: before) after

end Joining

end CertRenewal
