/-!
Tables of character codes, sorted by key and searched by halving. A key stands for the codes from
it up to the next key, so one search answers both membership in ranges and per-range data.
-/

namespace Warden.Text.CodeTable

def rank {α : Type} (table : Array (Nat × α)) (code low high : Nat) : Nat :=
  if low < high then
    let middle := (low + high) / 2
    match table[middle]? with
    | some (key, _) =>
        if key ≤ code then rank table code (middle + 1) high else rank table code low middle
    | none => low
  else low
termination_by high - low

def floor? {α : Type} (table : Array (Nat × α)) (code : Nat) : Option (Nat × α) :=
  match rank table code 0 table.size with
  | 0 => none
  | count + 1 => table[count]?

/-- The character of a code in a table of runs. A run holds the characters of its key and of the
codes after it, with the replacement character for a code that has none. -/
def character? (runs : Array (Nat × String)) (code : Nat) : Option Char := do
  let (key, characters) ← floor? runs code
  (characters.toList[code - key]?).filter (· != '\uFFFD')

end Warden.Text.CodeTable
