import Espp.Cli.LineInput

/-!
# The line editor as a gap buffer

What the loop of `get_user_input` does to the line, said without columns: a line is the text
before the cursor and the text after it.  A printable key goes in at the cursor, Backspace removes
the character before it, Ctrl+K drops everything after it, and the motion keys move one character,
or to either end, across the cursor.  `LineState.Holds` relates the loop's locals to such a buffer
(`input` is the whole text, `pos_x - start_pos_x` the length of the part before the cursor), and
`LineState.apply_holds` shows that every edit other than a history recall keeps the relation, one
case per edit.  The run lemma follows by induction on the keys.

The four history recalls are outside this model: they replace the text but leave the cursor where
it was, which a gap buffer cannot express (`getUserInput_recall_past_end`).
-/

namespace Espp
namespace Cli

/-- A line as the text before the cursor, nearest character first, and the text after it. -/
structure Buffer where
  left : List Char
  right : List Char
  deriving DecidableEq, Repr

namespace Buffer

/-- The empty line. -/
def empty : Buffer := ⟨[], []⟩

/-- The whole text of the line. -/
def text (b : Buffer) : List Char := b.left.reverse ++ b.right

/-- What an edit does to the line.  The history recalls are not edits of the line. -/
def edit (b : Buffer) : Edit → Buffer
  | .forward => match b.right with
    | [] => b
    | c :: r => ⟨c :: b.left, r⟩
  | .back => match b.left with
    | [] => b
    | c :: l => ⟨l, c :: b.right⟩
  | .home => ⟨[], b.text⟩
  | .toEnd => ⟨b.right.reverse ++ b.left, []⟩
  | .kill => ⟨b.left, []⟩
  | .backspace => ⟨b.left.tail, b.right⟩
  | .insert c => ⟨c :: b.left, b.right⟩
  | .clear | .ignore | .up | .down | .older | .newer => b

/-- The edits of the keys up to the first Enter. -/
def run (b : Buffer) : List Key → Buffer
  | [] => b
  | k :: ks => if k = .byte '\n' then b else (b.edit k.edit).run ks

end Buffer

namespace LineState

/-- `st` holds the line `b`: `input` is its text and the cursor stands after `b.left`. -/
def Holds (st : LineState) (b : Buffer) : Prop :=
  st.input = b.left.reverse ++ b.right ∧ st.offset = b.left.length

theorem holds_empty (history : List (List Char)) (historySize : Nat) (x y : Int) :
    (start history historySize x y).Holds .empty := by
  simp [Holds, start, offset, Buffer.empty]

theorem toNat_offset {st : LineState} {b : Buffer} (h : st.Holds b) :
    st.offset.toNat = b.left.length := by
  rw [h.2, Int.toNat_ofNat]

/-- Every edit but a history recall is defined on a state that holds a line, and the state after
it holds the edited line. -/
theorem apply_holds {st : LineState} {b : Buffer} (h : st.Holds b) {e : Edit}
    (he : e.recalls = false) : ∃ st', st.apply e = some st' ∧ st'.Holds (b.edit e) := by
  obtain ⟨hin, hoff⟩ := h
  have hk := toNat_offset ⟨hin, hoff⟩
  have hpos : st.posX - st.startPosX = b.left.length := hoff
  have hlen : st.input.length = b.left.length + b.right.length := by simp [hin]
  cases e
  case up | down | older | newer => cases he
  case forward =>
    refine ⟨_, rfl, ?_⟩
    cases hr : b.right with
    | nil =>
      rw [hr, List.length_nil, Nat.add_zero] at hlen
      refine ⟨by simp [Buffer.edit, hr, hin], ?_⟩
      simp only [offset, Buffer.edit, hr]
      omega
    | cons c r =>
      rw [hr, List.length_cons] at hlen
      refine ⟨by simp [Buffer.edit, hr, hin], ?_⟩
      simp only [offset, Buffer.edit, hr, List.length_cons]
      omega
  case back =>
    refine ⟨_, rfl, ?_⟩
    cases hl : b.left with
    | nil =>
      rw [hl, List.length_nil] at hpos
      refine ⟨by simp [Buffer.edit, hl, hin], ?_⟩
      simp only [offset, Buffer.edit, hl, List.length_nil]
      omega
    | cons c l =>
      rw [hl, List.length_cons] at hpos
      refine ⟨by simp [Buffer.edit, hl, hin], ?_⟩
      simp only [offset, Buffer.edit, hl]
      omega
  case home => exact ⟨_, rfl, by simp [Holds, Buffer.edit, Buffer.text, offset, hin]⟩
  case toEnd =>
    refine ⟨_, rfl, by simp [Buffer.edit, hin], ?_⟩
    simp only [offset, Buffer.edit, List.length_append, List.length_reverse]
    omega
  case kill =>
    refine ⟨_, by rw [apply, resize, if_neg (by omega), hk, if_pos (by omega)]; rfl, ?_⟩
    simp [Holds, Buffer.edit, offset, hin, hpos]
  case clear | ignore => exact ⟨_, rfl, hin, hoff⟩
  case backspace =>
    cases hl : b.left with
    | nil =>
      rw [hl, List.length_nil] at hpos
      refine ⟨st, by rw [apply, if_neg (by omega)], by simp [Buffer.edit, hl, hin], ?_⟩
      simp only [Buffer.edit, hl, List.tail_nil, List.length_nil, offset]
      omega
    | cons c l =>
      rw [hl, List.length_cons] at hpos hlen
      have hne : st.input ≠ [] := List.ne_nil_of_length_pos (by omega)
      refine ⟨_, by rw [apply, if_pos ⟨hne, by omega⟩, eraseAt, offset,
        if_pos (by omega)]; rfl, ?_⟩
      have hl' : (st.posX - st.startPosX - 1).toNat = l.length := by omega
      refine ⟨?_, by simp only [offset, Buffer.edit, hl, List.tail_cons]; omega⟩
      simp only [Buffer.edit, hl, hin, hl', List.tail_cons]
      rw [List.drop_left' (by simp), List.reverse_cons, List.append_assoc,
        List.take_left' (List.length_reverse l)]
  case insert c =>
    refine ⟨_, by rw [apply, insertAt, if_pos ⟨by omega, by omega⟩]; rfl, ?_⟩
    refine ⟨?_, by simp only [offset, Buffer.edit, List.length_cons]; omega⟩
    simp [Buffer.edit, hin, hk]

/-- A state that holds a line has its cursor inside it. -/
theorem Holds.cursorInLine {st : LineState} {b : Buffer} (h : st.Holds b) : st.CursorInLine := by
  rw [CursorInLine, h.2, h.1, List.length_append, List.length_reverse]
  omega

/-- A cursor inside the line cuts it into a gap buffer that the state holds. -/
theorem holds_of_cursorInLine {st : LineState} (h : st.CursorInLine) :
    st.Holds ⟨(st.input.take st.offset.toNat).reverse, st.input.drop st.offset.toNat⟩ := by
  obtain ⟨h0, hlen⟩ := h
  refine ⟨by simp, ?_⟩
  simp only [List.length_reverse, List.length_take]
  omega

end LineState

/-- On keys that recall no history entry before the first Enter, the loop is defined and edits the
line as a gap buffer does. -/
theorem getUserInput_holds {st : LineState} {b : Buffer} {ks : List Key} (h : st.Holds b)
    (hk : ∀ k ∈ ks.takeWhile (· ≠ .byte '\n'), k.edit.recalls = false) :
    ∃ st', getUserInput st ks = some st' ∧ st'.Holds (b.run ks) := by
  induction ks generalizing st b with
  | nil => exact ⟨st, rfl, h⟩
  | cons k ks ih =>
    unfold getUserInput Buffer.run
    by_cases hn : k = .byte '\n'
    · simp only [if_pos hn]
      exact ⟨st, rfl, h⟩
    · simp only [if_neg hn]
      rw [List.takeWhile_cons_of_pos (by simpa using hn)] at hk
      obtain ⟨st₁, hs, h₁⟩ := LineState.apply_holds h (hk k (List.mem_cons_self k _))
      rw [LineState.step, hs, Option.some_bind]
      exact ih h₁ fun k' hk' => hk k' (List.mem_cons_of_mem k hk')

/-- On keys that recall no history entry, every edit of the loop is defined and the cursor stays
inside the line. -/
theorem getUserInput_cursorInLine {st : LineState} {ks : List Key} (h : st.CursorInLine)
    (hk : ∀ k ∈ ks, k.edit.recalls = false) :
    ∃ st', getUserInput st ks = some st' ∧ st'.CursorInLine := by
  obtain ⟨st', hs, hh⟩ := getUserInput_holds (LineState.holds_of_cursorInLine h)
    fun k hk' => hk k ((List.takeWhile_sublist _).subset hk')
  exact ⟨st', hs, hh.cursorInLine⟩

end Cli
end Espp
