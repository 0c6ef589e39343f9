import Espp.Cli.Editor

/-!
# `LineInput`: the history across calls

The members of `espp::LineInput` (`line_input.hpp`) that outlive one call: `history_size_` and the
deque `input_history_`, newest entry in front.  `set_history_size` and `set_history` truncate the
deque to its newest `history_size_` entries when the size is non-zero; `get_user_input` puts an
empty entry in front, drops the oldest entry when that overflows, and edits the new front entry in
place with the keys it reads off the byte stream (`readKeys`) until Enter.

The two kinds of truncation agree only on states the calls can reach: `pop_back` removes one entry,
so it restores the bound only if the bound held before.  `Bounded` is that invariant, kept by every
call (`run_bounded`), and under it a call that returns `line` leaves the history
`truncate history_size_ (line :: history)` (`getUserInput_history`): the history is the newest
`history_size_` lines entered, newest first, and no call edits an older entry.
-/

namespace Espp
namespace Cli

/-! ## The loop keeps the older entries -/

namespace LineState

/-- No edit changes the entries behind the one being edited. -/
theorem apply_older {st st' : LineState} {e : Edit} (h : st.apply e = some st') :
    st'.older = st.older := by
  cases e <;> simp only [apply] at h
  case kill | insert =>
    obtain ⟨s, -, rfl⟩ := Option.map_eq_some'.mp h
    rfl
  case backspace =>
    split_ifs at h
    · obtain ⟨s, -, rfl⟩ := Option.map_eq_some'.mp h
      rfl
    · cases h; rfl
  all_goals cases h; rfl

end LineState

theorem getUserInput_older {st st' : LineState} {ks : List Key}
    (h : getUserInput st ks = some st') : st'.older = st.older := by
  induction ks generalizing st with
  | nil => cases h; rfl
  | cons k ks ih =>
    unfold getUserInput at h
    split_ifs at h
    · cases h; rfl
    · obtain ⟨st₁, hs, h⟩ := Option.bind_eq_some.mp h
      exact (ih h).trans (LineState.apply_older hs)

/-! ## The object and its calls -/

/-- The members of `LineInput` its calls read and write.  The terminal size and
`should_handle_resize_` only decide when the loop redraws. -/
structure LineInput where
  historySize : Nat
  inputHistory : List (List Char)
  deriving DecidableEq, Repr

namespace LineInput

/-- `LineInput() = default`: `history_size_` is `0`, no limit, and the history is empty. -/
def init : LineInput := ⟨0, []⟩

/-- The truncation `set_history_size` and `set_history` share,
`if (history_size_ > 0 && input_history_.size() > history_size_)`
`input_history_.resize(history_size_)`: `resize` keeps the front of the deque, the newest
entries. -/
def truncate (historySize : Nat) (history : List (List Char)) : List (List Char) :=
  if historySize > 0 ∧ history.length > historySize then history.take historySize else history

/-- `set_history_size(new_size)`. -/
def setHistorySize (li : LineInput) (newSize : Nat) : LineInput :=
  { historySize := newSize, inputHistory := truncate newSize li.inputHistory }

/-- `set_history(history)`. -/
def setHistory (li : LineInput) (history : List (List Char)) : LineInput :=
  { li with inputHistory := truncate li.historySize history }

/-- `get_user_input(is)` on the byte stream `is`, with the cursor at `(startPosX, startPosY)` as
`get_cursor_position` reads it: the line returned, the object after the call, and the stream after
the Enter that ended the line.  `none` where an edit is undefined, and where the stream ends before
the loop reads an Enter as a key. -/
def getUserInput (li : LineInput) (startPosX startPosY : Int) (is : List Char) :
    Option (List Char × LineInput × List Char) :=
  (readKeys .key is).bind fun (ks, rest) =>
    (Cli.getUserInput (LineState.start li.inputHistory li.historySize startPosX startPosY) ks).map
      fun st => (st.input, { li with inputHistory := st.input :: st.older }, rest)

/-- The calls a program makes on a `LineInput`; `get_user_input` with the cursor position the
terminal reports. -/
inductive Call where
  | setHistorySize (newSize : Nat)
  | setHistory (history : List (List Char))
  | getUserInput (startPosX startPosY : Int)
  deriving DecidableEq, Repr

/-- A run of calls reading one byte stream: the object after it, the rest of the stream, and the
lines `get_user_input` returned, in order. -/
def run (li : LineInput) (is : List Char) :
    List Call → Option (LineInput × List Char × List (List Char))
  | [] => some (li, is, [])
  | .setHistorySize n :: cs => (li.setHistorySize n).run is cs
  | .setHistory h :: cs => (li.setHistory h).run is cs
  | .getUserInput x y :: cs =>
    (li.getUserInput x y is).bind fun (line, li', is') =>
      (li'.run is' cs).map fun (li'', is'', lines) => (li'', is'', line :: lines)

/-! ## The bound -/

/-- A non-zero `history_size_` bounds the history. -/
def Bounded (li : LineInput) : Prop :=
  li.historySize > 0 → li.inputHistory.length ≤ li.historySize

instance (li : LineInput) : Decidable li.Bounded := inferInstanceAs (Decidable (_ → _))

theorem init_bounded : init.Bounded := fun _ => Nat.zero_le _

/-- The truncation keeps the newest `n` entries, all of them when `n` is `0`. -/
theorem truncate_eq (n : Nat) (h : List (List Char)) :
    truncate n h = if n = 0 then h else h.take n := by
  unfold truncate
  split_ifs with h1 h2 h2
  · omega
  · rfl
  · rfl
  · exact (List.take_of_length_le (by omega)).symm

theorem length_truncate_le {n : Nat} (hn : n > 0) (h : List (List Char)) :
    (truncate n h).length ≤ n := by
  rw [truncate_eq, if_neg (by omega), List.length_take]
  exact min_le_left _ _

theorem truncate_append_truncate (n : Nat) (ls h : List (List Char)) :
    truncate n (ls ++ truncate n h) = truncate n (ls ++ h) := by
  simp only [truncate_eq]
  split_ifs
  · rfl
  · rw [List.take_append_eq_append_take, List.take_append_eq_append_take, List.take_take,
      min_eq_left (Nat.sub_le n _)]

theorem truncate_of_bounded {li : LineInput} (hb : li.Bounded) :
    truncate li.historySize li.inputHistory = li.inputHistory := by
  rw [truncate_eq]
  split_ifs with hn
  · rfl
  · exact List.take_of_length_le (hb (by omega))

theorem setHistorySize_bounded (li : LineInput) (n : Nat) : (li.setHistorySize n).Bounded :=
  fun hn => length_truncate_le hn _

theorem setHistory_bounded (li : LineInput) (h : List (List Char)) : (li.setHistory h).Bounded :=
  fun hn => length_truncate_le hn _

/-- Under the bound, `emplace_front` then one `pop_back` is the truncation of the longer history. -/
theorem start_older {li : LineInput} (hb : li.Bounded) (x y : Int) (line : List Char) :
    line :: (LineState.start li.inputHistory li.historySize x y).older =
      truncate li.historySize (line :: li.inputHistory) := by
  unfold LineState.start truncate
  simp only [List.length_cons, gt_iff_lt]
  split_ifs with h1
  · have hl : li.inputHistory.length = li.historySize := by have := hb h1.1; omega
    rw [List.dropLast_eq_take, hl]
    obtain ⟨m, hm⟩ := Nat.exists_eq_succ_of_ne_zero (n := li.historySize) (by omega)
    simp [hm]
  · rfl

/-- Under the bound, a call of `get_user_input` that returns `line` puts it in front of the history
and keeps the newest `history_size_` entries; the older entries are not edited. -/
theorem getUserInput_history {li li' : LineInput} {x y : Int} {is rest : List Char}
    {line : List Char} (hb : li.Bounded) (h : li.getUserInput x y is = some (line, li', rest)) :
    li'.historySize = li.historySize ∧
      li'.inputHistory = truncate li.historySize (line :: li.inputHistory) := by
  obtain ⟨_, -, h⟩ := Option.bind_eq_some.mp h
  obtain ⟨st, hst, he⟩ := Option.map_eq_some'.mp h
  simp only [Prod.mk.injEq] at he
  obtain ⟨rfl, rfl, -⟩ := he
  exact ⟨rfl, by rw [getUserInput_older hst]; exact start_older hb x y _⟩

/-- On a byte stream off which the loop reads the keys `ks` up to an Enter, none of them recalling a
history entry, `get_user_input` returns the text those keys build in an empty gap buffer, and leaves
the stream after that Enter. -/
theorem getUserInput_line (li : LineInput) (x y : Int) {is rest : List Char} {ks : List Key}
    (hr : readKeys .key is = some (ks, rest)) (hk : ∀ k ∈ ks, k.edit.recalls = false) :
    ∃ li', li.getUserInput x y is = some ((Buffer.empty.run ks).text, li', rest) := by
  obtain ⟨st, hst, hh⟩ :=
    getUserInput_holds (LineState.holds_empty li.inputHistory li.historySize x y)
      fun k hk' => hk k ((List.takeWhile_sublist _).subset hk')
  simp only [getUserInput, hr, Option.some_bind, hst, Option.map_some', hh.1]
  exact ⟨_, rfl⟩

/-- `a`, the escape `ESC [ H` (no arrow), then ` bc`, Enter and `;R` swallowed, `d`, Enter: `ad`. -/
theorem getUserInput_line_escape :
    ∃ li', init.getUserInput 1 1 "a\x1b[H bc\n;Rd\n".toList =
      some ((Buffer.empty.run [.byte 'a', .escape 'H', .byte 'd']).text, li', []) :=
  getUserInput_line init 1 1 (by decide) (by decide)

example : (Buffer.empty.run [.byte 'a', .escape 'H', .byte 'd']).text = ['a', 'd'] := by decide

/-- In every call of `get_user_input`, whatever keys it reads, the loop's `input_index` stays inside
the history: each `input_history_[input_index]` it evaluates is in bounds. -/
theorem getUserInput_index_in_history (li : LineInput) (x y : Int) {is : List Key}
    {st : LineState}
    (h : Cli.getUserInput (LineState.start li.inputHistory li.historySize x y) is = some st) :
    st.IndexInRange :=
  Cli.getUserInput_indexInRange (LineState.indexInRange_start _ _ _ _) h

/-- Ctrl+P twice on a history of one entry: the index stops at that entry. -/
theorem getUserInput_index_in_history_recall :
    ∃ st, Cli.getUserInput (LineState.start (LineInput.mk 0 [['x']]).inputHistory
        (LineInput.mk 0 [['x']]).historySize 1 1) [.byte '\x10', .byte '\x10'] = some st ∧
      st.IndexInRange :=
  have h : Cli.getUserInput (LineState.start (LineInput.mk 0 [['x']]).inputHistory
      (LineInput.mk 0 [['x']]).historySize 1 1) [.byte '\x10', .byte '\x10'] =
        some ⟨1, 1, 1, 1, 1, ['x'], [['x']]⟩ := by decide
  ⟨_, h, getUserInput_index_in_history _ 1 1 h⟩

theorem getUserInput_bounded {li li' : LineInput} {x y : Int} {is rest : List Char}
    {line : List Char} (hb : li.Bounded) (h : li.getUserInput x y is = some (line, li', rest)) :
    li'.Bounded := by
  obtain ⟨hs, hh⟩ := getUserInput_history hb h
  intro hn
  rw [hh, hs]
  exact length_truncate_le (hs ▸ hn) _

theorem run_cons_getUserInput {li li'' : LineInput} {x y : Int} {is is'' : List Char}
    {cs : List Call} {lines : List (List Char)}
    (h : li.run is (.getUserInput x y :: cs) = some (li'', is'', lines)) :
    ∃ line li' is' lines', li.getUserInput x y is = some (line, li', is') ∧
      li'.run is' cs = some (li'', is'', lines') ∧ lines = line :: lines' := by
  obtain ⟨⟨line, li', is'⟩, h1, h2⟩ := Option.bind_eq_some.mp h
  obtain ⟨⟨a, b, lines'⟩, h3, h4⟩ := Option.map_eq_some'.mp h2
  simp only [Prod.mk.injEq] at h4
  obtain ⟨rfl, rfl, rfl⟩ := h4
  exact ⟨line, li', is', lines', h1, h3, rfl⟩

/-- Every run of calls from a bounded object ends bounded: once `history_size_` is non-zero, the
history never holds more entries than it. -/
theorem run_bounded {li li' : LineInput} {is rest : List Char} {cs : List Call}
    {lines : List (List Char)} (hb : li.Bounded) (h : li.run is cs = some (li', rest, lines)) :
    li'.Bounded := by
  induction cs generalizing li is lines with
  | nil => cases h; exact hb
  | cons c cs ih =>
    cases c with
    | setHistorySize n => exact ih (setHistorySize_bounded li n) h
    | setHistory hs => exact ih (setHistory_bounded li hs) h
    | getUserInput x y =>
      obtain ⟨line, li₁, is₁, lines₁, h1, h2, -⟩ := run_cons_getUserInput h
      exact ih (getUserInput_bounded hb h1) h2

theorem run_bounded_init :
    ∃ li' rest lines, init.run "a\nb\n".toList
        [.setHistorySize 1, .getUserInput 1 1, .getUserInput 1 2] = some (li', rest, lines) ∧
      li'.Bounded :=
  have h : init.run "a\nb\n".toList
      [.setHistorySize 1, .getUserInput 1 1, .getUserInput 1 2] =
        some (⟨1, [['b']]⟩, [], [['a'], ['b']]) := by decide
  ⟨_, _, _, h, run_bounded init_bounded h⟩

/-- Over every run of `get_user_input` calls from a bounded object, the history is the lines
returned, newest first, in front of the history it started with, cut to the newest
`history_size_` entries. -/
theorem run_history {li li' : LineInput} {is rest : List Char} {cs : List Call}
    {lines : List (List Char)} (hb : li.Bounded)
    (hcs : ∀ c ∈ cs, ∃ x y, c = .getUserInput x y)
    (h : li.run is cs = some (li', rest, lines)) :
    li'.historySize = li.historySize ∧
      li'.inputHistory = truncate li.historySize (lines.reverse ++ li.inputHistory) := by
  induction cs generalizing li is lines with
  | nil => cases h; exact ⟨rfl, (truncate_of_bounded hb).symm⟩
  | cons c cs ih =>
    obtain ⟨x, y, rfl⟩ := hcs c (List.mem_cons_self c cs)
    obtain ⟨line, li₁, is₁, lines₁, h1, h2, rfl⟩ := run_cons_getUserInput h
    obtain ⟨hs₁, hh₁⟩ := getUserInput_history hb h1
    obtain ⟨hs, hh⟩ :=
      ih (getUserInput_bounded hb h1) (fun c hc => hcs c (List.mem_cons_of_mem _ hc)) h2
    refine ⟨hs.trans hs₁, ?_⟩
    rw [hh, hh₁, hs₁, truncate_append_truncate, List.reverse_cons, List.append_assoc,
      List.singleton_append]

theorem run_history_two :
    ∃ li' rest lines, (setHistorySize init 1).run "a\nb\n".toList
        [.getUserInput 1 1, .getUserInput 1 2] = some (li', rest, lines) ∧
      li'.historySize = (setHistorySize init 1).historySize ∧
      li'.inputHistory = truncate (setHistorySize init 1).historySize
        (lines.reverse ++ (setHistorySize init 1).inputHistory) :=
  have h : (setHistorySize init 1).run "a\nb\n".toList
      [.getUserInput 1 1, .getUserInput 1 2] = some (⟨1, [['b']]⟩, [], [['a'], ['b']]) := by
    decide
  ⟨_, _, _, h, run_history (setHistorySize_bounded init 1) (by simp) h⟩

end LineInput

end Cli
end Espp
