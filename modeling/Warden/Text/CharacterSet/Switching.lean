import Warden.Text.CharacterSet.Gb2312
import Warden.Text.CharacterSet.Japanese
import Warden.Text.CharacterSet.KsX1001

/-!
Sets that switch between tables. An escape sequence designates a table, by a final byte of its own,
for one of three places. Characters come from the first place; in some sets a shift turns to the
second one, or an escape character with a letter takes a single character from the third one.
-/

namespace Warden.Text.CharacterSet.Switching

inductive Graphic
  | basic
  | roman
  | kana
  | latin
  | greek
  | pairs (meaning : Nat → Nat → Option (List Char))

inductive Place
  | first
  | second
  | third

structure Rules where
  single : List (Char × Graphic) := []
  double : List (Char × Graphic)
  shifts : Bool := false
  thirdPlace : Bool := false
  announced : Bool := true

structure State where
  first : Graphic := .basic
  second : Graphic := .basic
  third : Graphic := .basic
  isShifted : Bool := false
  isPassing : Bool := false

def State.designate (state : State) (place : Place) (graphic : Graphic) : State :=
  match place with
  | .first => { state with first := graphic }
  | .second => { state with second := graphic }
  | .third => { state with third := graphic }

def isFinal (byte : UInt8) : Bool :=
  0x40 ≤ byte && byte ≤ 0x5A

def Rules.single? (rules : Rules) (place : Place) (final : UInt8) (more : Nat) :
    Option (Place × Graphic × Nat) :=
  let tables := ('B', Graphic.basic) :: rules.single
  (tables.lookup (Char.ofNat final.toNat)).map fun graphic => (place, graphic, more)

def Rules.double? (rules : Rules) (place : Place) (final : UInt8) (more : Nat) :
    Option (Place × Graphic × Nat) :=
  (rules.double.lookup (Char.ofNat final.toNat)).map fun graphic => (place, graphic, more)

/-- The table that an escape sequence designates, and how many bytes stand behind the escape
character. The tables of pairs for the first place have a short form, and the main one can be
announced by two bytes and an escape character. -/
def Rules.designation? (rules : Rules) (behind : List UInt8) : Option (Place × Graphic × Nat) :=
  match behind.map fun byte => Char.ofNat byte.toNat, behind with
  | '$' :: '(' :: _, _ :: _ :: final :: _ =>
      if isFinal final then rules.double? .first final 3 else none
  | '$' :: ')' :: _, _ :: _ :: final :: _ =>
      if isFinal final then rules.double? .second final 3 else none
  | kind :: _ :: '\x1b' :: '$' :: 'B' :: _, _ :: second :: _ =>
      if rules.announced && (!isFinal second || (kind == '&' && second == 0x40)) then
        rules.double? .first 0x42 5
      else short? kind second
  | kind :: _, _ :: second :: _ => short? kind second
  | _, _ => none
where
  short? (kind : Char) (final : UInt8) : Option (Place × Graphic × Nat) :=
    if !isFinal final then none
    else match kind with
      | '$' => rules.double? .first final 2
      | '(' => rules.single? .first final 2
      | ')' => rules.single? .second final 2
      | '.' => if rules.thirdPlace then rules.single? .third final 2 else none
      | _ => none

def greekSigns : String :=
  "\u00a0‘’£��¦§¨©�«¬\u00ad�―°±²³΄΅Ά·ΈΉΊ»Ό½ΎΏΐΑΒΓΔΕΖΗΘΙΚΛΜΝΞΟΠΡ�ΣΤΥΦΧΨΩΪΫάέήίΰαβγδεζηθικλμνξοπ" ++
    "ρςστυφχψωϊϋόύώ�"

def ofThird? (graphic : Graphic) (byte : Nat) : Option Char :=
  match graphic with
  | .basic => if byte < 0x80 then some (Char.ofNat byte) else none
  | .latin => if byte < 0x80 then some (Char.ofNat (byte + 0x80)) else none
  | .greek =>
      if 0x80 ≤ byte then some (Char.ofNat (byte - 0x80))
      else if byte < 0x20 then some (Char.ofNat (byte + 0x80))
      else (greekSigns.toList[byte - 0x20]?).filter (· != '\uFFFD')
  | _ => none

def graphicNext (graphic : Graphic) (state : State) (first : UInt8) (rest : List UInt8) :
    Sequence State :=
  let single := fun (character? : Option Char) => match character? with
    | some character => Sequence.character character 0 state
    | none => .wrong 0
  match graphic with
  | .basic => .code first.toNat 0 state
  | .roman => single (TwoRows.extendedSingle? first.toNat)
  | .kana => single (halfWidthKana? (first.toNat + 0x80))
  | .latin | .greek => .wrong 0
  | .pairs meaning =>
      match rest with
      | [] => .wrong 0
      | second :: _ => .ofPair (meaning first.toNat second.toNat) state

/-- What stands behind an escape character: a designation, a character of the third place, or a
foreign escape sequence, which passes as it is up to its final byte. -/
def escapeNext (rules : Rules) (state : State) (behind : List UInt8) : Sequence State :=
  match behind with
  | [] => .wrong 0
  | kind :: rest =>
      if "()$.&".toList.contains (Char.ofNat kind.toNat) then
        match rules.designation? behind with
        | some (place, graphic, more) => .symbols [] more (state.designate place graphic)
        | none => .wrong 0
      else if rules.thirdPlace && kind == 0x4E then
        match rest with
        | [] => .wrong 0
        | byte :: _ => match ofThird? state.third byte.toNat with
          | some character => .character character 2 state
          | none => .wrong 0
      else .character '\x1b' 0 { state with isPassing := true }

def next (rules : Rules) (state : State) (first : UInt8) (rest : List UInt8) : Sequence State :=
  let character := Char.ofNat first.toNat
  if state.isPassing then .character character 0 { state with isPassing := !isFinal first }
  else if character == '\x1b' then escapeNext rules state rest
  else if rules.shifts && character == '\x0f' then .symbols [] 0 { state with isShifted := false }
  else if rules.shifts && character == '\x0e' then .symbols [] 0 { state with isShifted := true }
  else if character == '\n' then .character '\n' 0 { state with isShifted := false }
  else if first < 0x20 then .character character 0 state
  else if !isBasic first then .wrong 0
  else graphicNext (if state.isShifted then state.second else state.first) state first rest

def read (rules : Rules) (bytes : List UInt8) : Option (List Symbol) :=
  readFrom (next rules) {} bytes

/-! The sets -/

def jis0208Pairs : Graphic :=
  .pairs fun row column => alone (jisCell? row column)

def jis0212Pairs : Graphic :=
  .pairs fun row column => alone (cell? jis0212 row column)

def firstPlanePairs (edition : Extended.Edition) : Graphic :=
  .pairs (Extended.firstPlane? edition)

def secondPlanePairs : Graphic :=
  .pairs fun row column => alone (Extended.secondPlane? .second row column)

def koreanPairs : Graphic :=
  .pairs fun row column => alone (cell? ksX1001 row column)

def chinesePairs : Graphic :=
  .pairs fun row column => alone (cell? gb2312 row column)

def Rules.japanese : Rules :=
  { single := [('J', .roman)]
    double := [('B', jis0208Pairs), ('@', jis0208Pairs)] }

def Rules.supplementary : Rules :=
  { Rules.japanese with double := ('D', jis0212Pairs) :: Rules.japanese.double }

def Rules.multilingual : Rules :=
  { single := [('A', .latin), ('F', .greek), ('J', .roman)]
    double := [('A', chinesePairs), ('C', koreanPairs)] ++ Rules.supplementary.double
    thirdPlace := true }

def Rules.halfWidth : Rules :=
  { Rules.supplementary with single := ('I', .kana) :: Rules.supplementary.single }

def Rules.extended (edition : Extended.Edition) : Rules :=
  let firstPlane := match edition with
    | .first => ('O', firstPlanePairs .first)
    | .second => ('Q', firstPlanePairs .second)
  { double := [('B', jis0208Pairs), firstPlane, ('P', secondPlanePairs)] }

def Rules.korean : Rules :=
  { double := [('C', koreanPairs)], shifts := true, announced := false }

end Warden.Text.CharacterSet.Switching
