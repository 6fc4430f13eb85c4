import Holdfast.Json.Reader
import Holdfast.Proofs.Json.Tokens

/-!
# Reading written JSON

What the printer writes of a value, the reader reads back as that value (`parse?_render`), as long
as its numerals are numerals of JSON; a string need not spell a text. The reader's machine is
followed along the printer's recursion: from a state that wants a value, the text of a value leads
to the state in which that value is complete (`run_write`).
-/

namespace Holdfast.Json

open Text

mutual

/-- Every numeral in the value is one of JSON. -/
def Plain : Json → Prop
  | .null => True
  | .bool _ => True
  | .number lexeme => IsNumeral lexeme
  | .string _ => True
  | .array items => PlainItems items
  | .object members => PlainMembers members
termination_by structural j => j

/-- Items that are plain. -/
def PlainItems : List Json → Prop
  | [] => True
  | j :: rest => Plain j ∧ PlainItems rest
termination_by structural js => js

/-- A member that is plain. -/
def PlainMember : (Option String × Json) → Prop
  | (_, j) => Plain j
termination_by structural m => m

/-- Members that are plain. -/
def PlainMembers : List (Option String × Json) → Prop
  | [] => True
  | m :: rest => PlainMember m ∧ PlainMembers rest
termination_by structural ms => ms

end

namespace State

/-- From one state the machine gets to another over a text, within as many steps as the text has
glyphs. -/
def Reaches (st : State) (text : List Char) (rest : List Glyph) (st' : State) : Prop :=
  ∃ k ≤ text.length, ∀ fuel, run (fuel + k) st (inks text ++ rest) = run fuel st' rest

variable {st st' st'' : State} {rest : List Glyph} {text text' : List Char}

/-- Getting on from where one got to. -/
theorem Reaches.trans (h : st.Reaches text (inks text' ++ rest) st')
    (h' : st'.Reaches text' rest st'') : st.Reaches (text ++ text') rest st'' := by
  obtain ⟨k, le, steps⟩ := h
  obtain ⟨k', le', steps'⟩ := h'
  refine ⟨k' + k, by rw [List.length_append]; omega, ?_⟩
  intro fuel
  rw [← Nat.add_assoc, inks_append, List.append_assoc, steps, steps']

/-- The machine stops with a value when nothing is open. -/
def Stopped : State → Prop
  | .complete _ [] => True
  | _ => False

/-- One step over the text of a token. -/
theorem Reaches.of_step (going : ¬ st.Stopped) {t : Token}
    (next : Token.next (inks text ++ rest) = some (t, rest)) (step : st.step t = some st')
    (nonempty : text ≠ []) : st.Reaches text rest st' := by
  refine ⟨1, ?_, ?_⟩
  · exact List.length_pos_iff.2 nonempty
  · intro fuel
    cases st with
    | complete j stack =>
      cases stack with
      | nil => exact absurd trivial going
      | cons frame stack => simp only [run, next, step]
    | _ => simp only [run, next, step]

/-- The state wants a value next. -/
structure Wants (st : State) (stack : List Frame) : Prop where
  going : ¬ st.Stopped
  step : ∀ t, t ≠ .closeArray → st.step t = start stack t

/-- A value is wanted where the state says so. -/
theorem wants_value (stack : List Frame) : (State.value stack).Wants stack :=
  ⟨id, fun _ _ => rfl⟩

/-- After an opening bracket an item is wanted, if the array is not closed. -/
theorem wants_firstItem (stack : List Frame) :
    (State.firstItem stack).Wants (.items [] :: stack) := by
  refine ⟨id, fun t open_ => ?_⟩
  rw [State.step, if_neg open_]

/-- The state wants a member next. -/
structure WantsMember (st : State) (done : List (Option String × Json)) (stack : List Frame) :
    Prop where
  going : ¬ st.Stopped
  step : ∀ key, st.step (.string key) = some (.colon done key stack)

end State

open State

/-- What follows an item ends it. -/
theorem ends_moreItems (items : List Json) (rest : List Glyph) :
    Ends (inks (writeMoreItems items ++ [']']) ++ rest) := by
  cases items with
  | nil => exact .inr (.inl rfl)
  | cons j items => exact .inl rfl

/-- What follows a member ends it. -/
theorem ends_moreMembers (members : List (Option String × Json)) (rest : List Glyph) :
    Ends (inks (writeMoreMembers members ++ ['\x7d']) ++ rest) := by
  cases members with
  | nil => exact .inr (.inr rfl)
  | cons m members => exact .inl rfl

/-- A literal has its quotes. -/
theorem literalOrGap_ne_nil : ∀ s : Option String, literalOrGap s ≠ []
  | some _ => by simp [literalOrGap, literal]
  | none => by simp [literalOrGap]

/-- A mark that is a token by itself. -/
theorem next_mark (rest : List Glyph) :
    Token.next (inks ['['] ++ rest) = some (.openArray, rest) ∧
    Token.next (inks [']'] ++ rest) = some (.closeArray, rest) ∧
    Token.next (inks ['\x7b'] ++ rest) = some (.openObject, rest) ∧
    Token.next (inks ['\x7d'] ++ rest) = some (.closeObject, rest) ∧
    Token.next (inks [','] ++ rest) = some (.comma, rest) ∧
    Token.next (inks [':'] ++ rest) = some (.colon, rest) :=
  ⟨rfl, rfl, rfl, rfl, rfl, rfl⟩

mutual

/-- **Over the text of a value the machine completes it.** -/
theorem reaches_write : ∀ (j : Json), Plain j → ∀ {st : State} {stack : List Frame}
    {rest : List Glyph}, st.Wants stack → Ends rest →
      st.Reaches (write j) rest (.complete j stack)
  | .null, _, st, stack, rest, wants, _ =>
    .of_step wants.going rfl (wants.step .null (by simp)) (by simp [write])
  | .bool true, _, st, stack, rest, wants, _ =>
    .of_step wants.going rfl (wants.step (.bool true) (by simp)) (by simp [write])
  | .bool false, _, st, stack, rest, wants, _ =>
    .of_step wants.going rfl (wants.step (.bool false) (by simp)) (by simp [write])
  | .number lexeme, plain, st, stack, rest, wants, ends => by
    have plain : IsNumeral lexeme := plain
    exact .of_step wants.going (Token.next_numeral plain ends) (wants.step _ (by simp))
      plain.ne_nil
  | .string s, _, st, stack, rest, wants, _ =>
    .of_step wants.going (Token.next_literalOrGap s rest) (wants.step _ (by simp))
      (literalOrGap_ne_nil s)
  | .array items, plain, st, stack, rest, wants, _ => by
    have opened : st.step .openArray = some (.firstItem stack) := wants.step .openArray (by simp)
    rw [write, List.append_assoc]
    refine .trans (.of_step wants.going (next_mark _).1 opened (by simp)) ?_
    cases items with
    | nil => exact .of_step id (next_mark rest).2.1 rfl (by simp)
    | cons j items =>
      obtain ⟨plain, more⟩ := plain
      rw [writeItems, List.append_assoc]
      exact .trans (reaches_write j plain (wants_firstItem stack) (ends_moreItems items rest))
        (reaches_moreItems items more)
  | .object members, plain, st, stack, rest, wants, _ => by
    have opened : st.step .openObject = some (.firstMember stack) :=
      wants.step .openObject (by simp)
    rw [write, List.append_assoc]
    refine .trans (.of_step wants.going (next_mark _).2.2.1 opened (by simp)) ?_
    cases members with
    | nil => exact .of_step id (next_mark rest).2.2.2.1 rfl (by simp)
    | cons m members =>
      obtain ⟨plain, more⟩ := plain
      rw [writeMembers, List.append_assoc]
      exact .trans (reaches_member m plain ⟨id, fun _ => rfl⟩ (ends_moreMembers members rest))
        (reaches_moreMembers members more)

/-- Over the rest of an array the machine completes it. -/
theorem reaches_moreItems : ∀ (items : List Json), PlainItems items → ∀ {done : List Json}
    {j : Json} {stack : List Frame} {rest : List Glyph},
      (State.complete j (.items done :: stack)).Reaches (writeMoreItems items ++ [']']) rest
        (.complete (.array ((j :: done).reverse ++ items)) stack)
  | [], _, done, j, stack, rest => by
    rw [List.append_nil]
    exact .of_step id (next_mark rest).2.1 rfl (by simp [writeMoreItems])
  | item :: items, plain, done, j, stack, rest => by
    obtain ⟨plain, more⟩ := plain
    rw [writeMoreItems, List.append_assoc, List.append_assoc]
    refine .trans (.of_step id (next_mark _).2.2.2.2.1 rfl (by simp)) ?_
    refine .trans (reaches_write item plain (wants_value _) (ends_moreItems items rest)) ?_
    have closing : (State.complete item (.items (j :: done) :: stack)).Reaches
        (writeMoreItems items ++ [']']) rest
        (.complete (.array ((item :: j :: done).reverse ++ items)) stack) :=
      reaches_moreItems items more
    simpa using closing

/-- Over the text of a member the machine completes its value. -/
theorem reaches_member : ∀ (m : Option String × Json), PlainMember m → ∀ {st : State}
    {done : List (Option String × Json)} {stack : List Frame} {rest : List Glyph},
      st.WantsMember done stack → Ends rest →
        st.Reaches (writeMember m) rest (.complete m.2 (.members done m.1 :: stack))
  | (key, j), plain, st, done, stack, rest, wants, ends => by
    have plain : Plain j := plain
    rw [writeMember, List.append_assoc]
    refine .trans (.of_step wants.going (Token.next_literalOrGap key _) (wants.step _)
      (literalOrGap_ne_nil key)) ?_
    refine .trans (.of_step id (next_mark _).2.2.2.2.2 rfl (by simp)) ?_
    exact reaches_write j plain (wants_value _) ends

/-- Over the rest of an object the machine completes it. -/
theorem reaches_moreMembers : ∀ (members : List (Option String × Json)), PlainMembers members →
    ∀ {done : List (Option String × Json)} {key : Option String} {j : Json} {stack : List Frame}
      {rest : List Glyph},
      (State.complete j (.members done key :: stack)).Reaches (writeMoreMembers members ++ ['\x7d'])
        rest (.complete (.object (((key, j) :: done).reverse ++ members)) stack)
  | [], _, done, key, j, stack, rest => by
    rw [List.append_nil]
    exact .of_step id (next_mark rest).2.2.2.1 rfl (by simp [writeMoreMembers])
  | m :: members, plain, done, key, j, stack, rest => by
    obtain ⟨plain, more⟩ := plain
    rw [writeMoreMembers, List.append_assoc, List.append_assoc]
    refine .trans (.of_step id (next_mark _).2.2.2.2.1 rfl (by simp)) ?_
    have another :
        (State.nextMember ((key, j) :: done) stack).WantsMember ((key, j) :: done) stack :=
      ⟨id, fun _ => rfl⟩
    refine .trans (reaches_member m plain another (ends_moreMembers members rest)) ?_
    have closing : (State.complete m.2 (.members ((key, j) :: done) m.1 :: stack)).Reaches
        (writeMoreMembers members ++ ['\x7d']) rest
        (.complete (.object (((m.1, m.2) :: (key, j) :: done).reverse ++ members)) stack) :=
      reaches_moreMembers members more
    simpa using closing

end

/-- **Reading undoes writing.** -/
theorem parse?_render {j : Json} (plain : Plain j) : parse? (glyphs (render j)) = some j := by
  have reaches : (State.value []).Reaches (write j) [] (.complete j []) :=
    reaches_write j plain (wants_value []) trivial
  obtain ⟨k, le, steps⟩ := reaches
  have text : glyphs (render j) = inks (write j) ++ [] := by
    rw [List.append_nil, glyphs, render, String.toList_ofList]
    rfl
  have fuel : (glyphs (render j)).length = (write j).length - k + k := by
    rw [text, List.append_nil, length_inks]
    omega
  have read : value? (glyphs (render j)) = some (j, []) := by
    rw [value?, fuel, text, steps]
    cases (write j).length - k <;> rfl
  rw [parse?, read]
  rfl

/-- What a reader of values takes from a text. -/
def ofText? {α : Type} (read : Json → Option α) (s : String) : Option α :=
  (parse? (glyphs s)).bind read

/-- From what the printer writes of a value, a reader takes what it takes from the value. -/
theorem ofText?_render {α : Type} (read : Json → Option α) {j : Json} (plain : Plain j) :
    ofText? read (render j) = read j := by
  rw [ofText?, parse?_render plain, Option.bind_some]

end Holdfast.Json
