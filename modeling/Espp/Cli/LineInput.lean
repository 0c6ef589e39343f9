import Mathlib.Data.List.Basic

/-!
# `LineInput::get_user_input`: the line editor

The loop of `get_user_input` (`line_input.hpp`) reads keys and edits `input`, the front element
of `input_history_`, with the cursor at column `pos_x` of a line that starts at `start_pos_x`.
`std::string::insert` and `erase` at an iterator outside the string are undefined; the model
returns `none` there.  The terminal output (`redraw`, `move_cursor`, the screen clearing of
Ctrl+L and of a resize) is left out: it reads the state but does not change it, except the resize
handling's `pos_y = 1`, which nothing here reads.

The cursor stays inside the line under every key but the four that recall a history entry; those
replace the line and leave `pos_x` where it was.
-/

namespace Espp
namespace Cli

/-- The keys the loop reads: an escape sequence `ESC ? c` (the byte after `ESC` is skipped
unread), or one byte.  `readKeys` reads them off the byte stream. -/
inductive Key where
  | escape (c : Char)
  | byte (c : Char)
  deriving DecidableEq, Repr

/-- The locals of `get_user_input` and the history: `input` is the front of `input_history_`,
`older` the entries behind it. -/
structure LineState where
  startPosX : Int
  startPosY : Int
  posX : Int
  posY : Int
  inputIndex : Int
  input : List Char
  older : List (List Char)
  deriving DecidableEq, Repr

/-- `input.insert(input.begin() + k, c)`, defined for `0 ≤ k ≤ input.size()`. -/
def insertAt (s : List Char) (k : Int) (c : Char) : Option (List Char) :=
  if 0 ≤ k ∧ k ≤ s.length then some (s.take k.toNat ++ c :: s.drop k.toNat) else none

/-- `input.erase(input.begin() + k)`, defined for `0 ≤ k < input.size()`. -/
def eraseAt (s : List Char) (k : Int) : Option (List Char) :=
  if 0 ≤ k ∧ k < s.length then some (s.take k.toNat ++ s.drop (k.toNat + 1)) else none

/-- `input.resize(k)`: a negative `k` becomes a `size_t` beyond `max_size()` and throws; a larger
size pads with NULs. -/
def resize (s : List Char) (k : Int) : Option (List Char) :=
  if k < 0 then none
  else if k.toNat ≤ s.length then some (s.take k.toNat)
  else some (s ++ List.replicate (k.toNat - s.length) '\x00')

/-- What a key does: the branches of the loop body. -/
inductive Edit where
  /-- Up arrow: the older history entry, one line up. -/
  | up
  /-- Down arrow: the newer history entry, one line down. -/
  | down
  /-- Right arrow and Ctrl+F. -/
  | forward
  /-- Left arrow and Ctrl+B. -/
  | back
  /-- Ctrl+A. -/
  | home
  /-- Ctrl+E. -/
  | toEnd
  /-- Ctrl+K: cut the line at the cursor. -/
  | kill
  /-- Ctrl+L: clear the screen and redraw on line 1. -/
  | clear
  /-- Ctrl+P: the older history entry. -/
  | older
  /-- Ctrl+N: the newer history entry. -/
  | newer
  /-- Backspace (127 or 8). -/
  | backspace
  /-- A regular character. -/
  | insert (c : Char)
  /-- An escape sequence other than the arrows. -/
  | ignore
  deriving DecidableEq, Repr

/-- The dispatch of the loop body on the key read (Enter is handled by the loop). -/
def Key.edit : Key → Edit
  | .escape c =>
    if c = 'A' then .up else if c = 'B' then .down else if c = 'C' then .forward
    else if c = 'D' then .back else .ignore
  | .byte c =>
    if c = '\x01' then .home else if c = '\x05' then .toEnd else if c = '\x02' then .back
    else if c = '\x06' then .forward else if c = '\x0b' then .kill else if c = '\x0c' then .clear
    else if c = '\x0e' then .newer else if c = '\x10' then .older
    else if c = '\x7f' ∨ c = '\x08' then .backspace else .insert c

/-! ## Reading keys off the byte stream -/

/-- Where the loop stands in `is` between two keys: at `int ch = is.get()`, skipping the byte after
`ESC`, reading the byte the `switch` tests, or in one of the two `is.ignore` calls of its default
case. -/
inductive ReadMode where
  | key
  | escape
  | escapeKey
  | toSemicolon
  | toR
  deriving DecidableEq, Repr

/-- The keys the loop reads off the byte stream `is` before the first Enter it reads as a key, and
the stream after that Enter.  An escape that is not an arrow makes the loop skip the bytes up to
the next `;` and then up to the next `R`, an Enter among them included.  `none` where the stream
ends first: at its end `is.get()` returns `EOF` forever and `ignore` stops there, and the loop
inserts `EOF` as a character and never leaves. -/
def readKeys : ReadMode → List Char → Option (List Key × List Char)
  | _, [] => none
  | .key, c :: rest =>
    if c = '\x1b' then readKeys .escape rest
    else if c = '\n' then some ([], rest)
    else (readKeys .key rest).map fun (ks, r) => (.byte c :: ks, r)
  | .escape, _ :: rest => readKeys .escapeKey rest
  | .escapeKey, c :: rest =>
    (readKeys (if (Key.escape c).edit = .ignore then .toSemicolon else .key) rest).map
      fun (ks, r) => (.escape c :: ks, r)
  | .toSemicolon, c :: rest => readKeys (if c = ';' then .toR else .toSemicolon) rest
  | .toR, c :: rest => readKeys (if c = 'R' then .key else .toR) rest

-- An Enter inside a skipped escape sequence does not end the line.
example : readKeys .key "a\x1b[H bc\n".toList = none := by decide

namespace LineState

/-- `input_history_[i]`. -/
def historyAt (st : LineState) (i : Int) : List Char := (st.input :: st.older).getD i.toNat []

/-- `int(input_history_.size() - 1)`. -/
def lastIndex (st : LineState) : Int := st.older.length

/-- `pos_x - start_pos_x`, the cursor's offset in the line. -/
def offset (st : LineState) : Int := st.posX - st.startPosX

/-- `input_index = i; input = input_history_[input_index];`. -/
def recallEntry (st : LineState) (i : Int) : LineState :=
  { st with inputIndex := i, input := st.historyAt i }

/-- The start of `get_user_input`: an empty entry in front of the history, the oldest entry
dropped when that overflows a non-zero `history_size_`, the cursor at the start position. -/
def start (history : List (List Char)) (historySize : Nat) (startPosX startPosY : Int) :
    LineState :=
  { startPosX, startPosY, posX := startPosX, posY := startPosY, inputIndex := 0, input := [],
    older := if 0 < historySize ∧ historySize < history.length + 1 then history.dropLast
      else history }

/-- One branch of the loop body. -/
def apply (st : LineState) : Edit → Option LineState
  | .up =>
    some { st.recallEntry (min (st.inputIndex + 1) st.lastIndex) with
      posY := max st.startPosY (st.posY - 1) }
  | .down => some { st.recallEntry (max (st.inputIndex - 1) 0) with posY := st.posY + 1 }
  | .forward => some { st with posX := min (st.input.length + st.startPosX) (st.posX + 1) }
  | .back => some { st with posX := max st.startPosX (st.posX - 1) }
  | .home => some { st with posX := st.startPosX }
  | .toEnd => some { st with posX := st.input.length + st.startPosX }
  | .kill => (resize st.input st.offset).map fun s => { st with input := s }
  | .clear => some { st with posY := 1 }
  | .older => some (st.recallEntry (min (st.inputIndex + 1) st.lastIndex))
  | .newer => some (st.recallEntry (max (st.inputIndex - 1) 0))
  | .backspace =>
    if st.input ≠ [] ∧ st.posX > st.startPosX then
      (eraseAt st.input (st.offset - 1)).map fun s => { st with input := s, posX := st.posX - 1 }
    else some st
  | .insert c => (insertAt st.input st.offset c).map fun s => { st with input := s, posX := st.posX + 1 }
  | .ignore => some st

/-- One key other than Enter. -/
def step (st : LineState) (k : Key) : Option LineState := st.apply k.edit

end LineState

/-- The loop of `get_user_input` over the keys it reads, up to Enter: the state it returns
`input` from, or `none` where an edit was undefined. -/
def getUserInput (st : LineState) : List Key → Option LineState
  | [] => some st
  | k :: ks => if k = .byte '\n' then some st else (st.step k).bind fun st' => getUserInput st' ks

/-- The edits that recall a history entry: the up and down arrows, Ctrl+P and Ctrl+N. -/
def Edit.recalls : Edit → Bool
  | .up | .down | .older | .newer => true
  | _ => false

namespace LineState

/-- `input_history_[input_index]` lies inside the history. -/
def IndexInRange (st : LineState) : Prop := 0 ≤ st.inputIndex ∧ st.inputIndex ≤ st.lastIndex

/-- The cursor lies inside the line: `0 ≤ pos_x - start_pos_x ≤ input.size()`. -/
def CursorInLine (st : LineState) : Prop := 0 ≤ st.offset ∧ st.offset ≤ st.input.length

theorem indexInRange_start (history : List (List Char)) (historySize : Nat) (x y : Int) :
    (start history historySize x y).IndexInRange := by
  constructor <;> simp only [start, lastIndex] <;> omega

/-- No edit moves `input_index` out of the history, and none changes the older entries. -/
theorem apply_indexInRange {st st' : LineState} {e : Edit} (h : st.IndexInRange)
    (hs : st.apply e = some st') : st'.IndexInRange ∧ st'.older = st.older := by
  unfold IndexInRange lastIndex at *
  cases e <;> simp only [apply] at hs
  case kill | insert =>
    obtain ⟨s, -, rfl⟩ := Option.map_eq_some'.mp hs
    exact ⟨h, rfl⟩
  case backspace =>
    split_ifs at hs
    · obtain ⟨s, -, rfl⟩ := Option.map_eq_some'.mp hs
      exact ⟨h, rfl⟩
    · cases hs; exact ⟨h, rfl⟩
  all_goals cases hs; exact ⟨by (try simp only [recallEntry, lastIndex] at *); omega, rfl⟩

end LineState

/-- The history index stays inside the history on every run of the loop. -/
theorem getUserInput_indexInRange {st st' : LineState} {ks : List Key} (h : st.IndexInRange)
    (hr : getUserInput st ks = some st') : st'.IndexInRange := by
  induction ks generalizing st with
  | nil => cases hr; exact h
  | cons k ks ih =>
    unfold getUserInput at hr
    split_ifs at hr
    · cases hr; exact h
    · obtain ⟨st₁, hs, hr⟩ := Option.bind_eq_some.mp hr
      exact ih (LineState.apply_indexInRange h hs).1 hr

/-- With history `["x"]`, typing `abcd` then Ctrl+P recalls `x` and leaves the cursor at offset 4,
past the end of the line; the next printable key inserts past the end. -/
theorem getUserInput_recall_past_end :
    (getUserInput (LineState.start [['x']] 0 1 1)
        [.byte 'a', .byte 'b', .byte 'c', .byte 'd', .byte '\x10']).map
        (fun s => (s.offset, s.input)) = some (4, ['x']) ∧
      getUserInput (LineState.start [['x']] 0 1 1)
        [.byte 'a', .byte 'b', .byte 'c', .byte 'd', .byte '\x10', .byte 'e'] = none :=
  ⟨by decide, by decide⟩

end Cli
end Espp
