import Diorama.Proofs.Fallible
import Diorama.Proofs.Script.Stream
import Diorama.Proofs.Text.LineBreaks

/-!
# Scripts one after the other

A script that is cut behind a line feed is read part by part.  The statements of the second part
follow those of the first one without its end marker, and every line of the second part, also that
of an error, lies further down by the number of lines of the first.

**Main statements.**
* `readLines_add`: a part of a script that begins further down.
* `readLines_append`: lines that are read in two parts.
* `numbered_of_readLines`: the lines of the statements of a script.
* `read_append`: the parts of a script.
-/

namespace Diorama

/-- A statement that stands some lines further down. -/
def Statement.downBy
    (count : Nat)
    (statement : Statement) :
    Statement :=
  { statement with line := statement.line + count }

/-- An error that arose some lines further down. -/
def ScriptError.downBy
    (count : Nat)
    (e : ScriptError) :
    ScriptError :=
  { e with line := e.line.map (· + count) }

/-- What a line holds does not depend on its number. -/
theorem Statement.read?_add
    (line : Int)
    (count : Nat)
    (raw : Text) :
    read? (line + count) raw
      = ((read? line raw).map (Option.map (downBy count))).mapError (ScriptError.downBy count) := by
  simp only [read?]
  split
  · rfl
  · split <;> rfl

/-- A line that cannot be read is reported with its number. -/
theorem Statement.exists_onLine_of_read?
    {line : Int}
    {raw : Text}
    {e : ScriptError}
    (h : read? line raw = .error e) :
    ∃ fault, e = .onLine fault line := by
  unfold read? at h
  split at h
  · cases h
  · split at h
    · cases h
    · cases h
      exact ⟨_, rfl⟩

namespace Script

/-- What is read first stands in front of what is read from the other lines. -/
theorem readLines_cons
    (line : Nat)
    (raw : Text)
    (rest : List Text) :
    readLines line (raw :: rest) = (do
      let statement? ← Statement.read? line raw
      let statements ← readLines (line + 1) rest
      return statement?.toList ++ statements) := by
  rw [readLines]
  cases Statement.read? line raw with
  | error e => rfl
  | ok statement? => cases readLines (line + 1) rest <;> rfl

/-- Lines that begin further down are read as before, further down. -/
theorem readLines_add
    (line count : Nat)
    (raws : List Text) :
    readLines (line + count) raws
      = ((readLines line raws).map (List.map (Statement.downBy count))).mapError
          (ScriptError.downBy count) := by
  induction raws generalizing line with
  | nil => rfl
  | cons raw rest ih =>
      have hcast : ((line + count : Nat) : Int) = (line : Int) + count := Int.natCast_add line count
      have hnext : line + count + 1 = line + 1 + count := Nat.add_right_comm line count 1
      rw [readLines_cons, readLines_cons, hcast, Statement.read?_add, hnext, ih (line + 1)]
      cases Statement.read? line raw with
      | error e => rfl
      | ok statement? =>
          cases readLines (line + 1) rest with
          | error e => rfl
          | ok statements => cases statement? <;> rfl

/-- The body of statements that were read begins with the first one, which is no end marker. -/
theorem body_toList_append
    {line : Int}
    {raw : Text}
    {statement? : Option Statement}
    (h : Statement.read? line raw = .ok statement?)
    (rest : List Statement) :
    body (statement?.toList ++ rest) = statement?.toList ++ body rest := by
  cases statement? with
  | none => rfl
  | some statement =>
      obtain ⟨_, keyword, tokens, htokens⟩ := Statement.ofTokens_of_read? h
      refine body_cons_of_ne ?_ rest
      intro hfinish
      rw [hfinish] at htokens
      exact Directive.ofTokens_ne_finish keyword tokens htokens

/-- Lines are read in two parts: the end marker of the first part gives way to the second part. -/
theorem readLines_append
    (line : Nat)
    (first second : List Text) :
    readLines line (first ++ second) = (do
      let statements ← readLines line first
      let others ← readLines (line + first.length) second
      return body statements ++ others) := by
  induction first generalizing line with
  | nil =>
      rw [List.nil_append, List.length_nil, Nat.add_zero]
      cases readLines line second <;> rfl
  | cons raw rest ih =>
      have hlength : line + (raw :: rest).length = line + 1 + rest.length := by
        rw [List.length_cons]
        omega
      rw [List.cons_append, readLines_cons, readLines_cons, ih (line + 1), hlength]
      cases hraw : Statement.read? line raw with
      | error e => rfl
      | ok statement? =>
          cases readLines (line + 1) rest with
          | error e => rfl
          | ok statements =>
              cases readLines (line + 1 + rest.length) second with
              | error e => rfl
              | ok others =>
                  have hbody := body_toList_append hraw statements
                  exact congrArg Except.ok (by rw [hbody, List.append_assoc])

/-- The error that stops the reading is one of its line. -/
theorem exists_onLine_of_readLines
    {line : Nat}
    {raws : List Text}
    {e : ScriptError}
    (h : readLines line raws = .error e) :
    ∃ fault number, e = .onLine fault number := by
  induction raws generalizing line with
  | nil => cases h
  | cons raw rest ih =>
      rw [readLines_cons] at h
      cases hraw : Statement.read? line raw with
      | error first =>
          rw [hraw] at h
          obtain rfl : first = e := Except.error.inj h
          obtain ⟨fault, rfl⟩ := Statement.exists_onLine_of_read? hraw
          exact ⟨fault, line, rfl⟩
      | ok statement? =>
          cases hrest : readLines (line + 1) rest with
          | ok statements =>
              rw [hraw, hrest] at h
              cases h
          | error later =>
              rw [hraw, hrest] at h
              obtain rfl : later = e := Except.error.inj h
              exact ih hrest

/-- No end marker stands in front of the end marker. -/
theorem ne_finish_of_mem_body
    {statement : Statement}
    {statements : List Statement}
    (h : statement ∈ body statements) :
    statement.directive ≠ .finish := by
  induction statements with
  | nil => cases h
  | cons first rest ih =>
      by_cases hend : first.directive = .finish
      · obtain ⟨line, directive⟩ := first
        obtain rfl : directive = .finish := hend
        cases h
      · rw [body_cons_of_ne hend] at h
        rcases List.mem_cons.mp h with rfl | hrest
        · exact hend
        · exact ih hrest

/-- Statements by increasing lines, up to the end marker on the line behind the last one. -/
structure Numbered
    (first last : Int)
    (statements : List Statement) : Prop where
  eq_body : statements = body statements ++ [⟨last, .finish⟩]
  increasing : statements.Pairwise fun a b => a.line < b.line
  first_le : ∀ statement ∈ statements, first ≤ statement.line

/-- A script that is read is numbered from its first line on. -/
theorem numbered_of_readLines
    {line : Nat}
    {raws : List Text}
    {statements : List Statement}
    (h : readLines line raws = .ok statements) :
    Numbered line (line + raws.length : Nat) statements := by
  induction raws generalizing line statements with
  | nil =>
      cases h
      exact ⟨rfl, List.pairwise_singleton _ _, by simp⟩
  | cons raw rest ih =>
      rw [readLines_cons] at h
      obtain ⟨statement?, hraw, h⟩ := bind_eq_ok_iff.mp h
      obtain ⟨others, hrest, h⟩ := bind_eq_ok_iff.mp h
      obtain rfl : statement?.toList ++ others = statements := Except.ok.inj h
      have hothers := ih hrest
      have hlast : (line + 1 + rest.length : Nat) = line + (raw :: rest).length := by
        rw [List.length_cons]
        omega
      rw [hlast] at hothers
      have hline : ∀ statement ∈ statement?.toList, statement.line = line := by
        intro statement hmem
        obtain rfl : statement? = some statement := Option.mem_toList.mp hmem
        exact (Statement.ofTokens_of_read? hraw).1
      refine ⟨?_, ?_, ?_⟩
      · rw [body_toList_append hraw, List.append_assoc, ← hothers.eq_body]
      · refine List.pairwise_append.mpr ⟨?_, hothers.increasing, ?_⟩
        · cases statement? <;> simp
        · intro a ha b hb
          have hbehind := hothers.first_le b hb
          rw [hline a ha]
          omega
      · intro statement hmem
        rcases List.mem_append.mp hmem with hhead | htail
        · exact Int.le_of_eq (hline statement hhead).symm
        · have hbehind := hothers.first_le statement htail
          omega

/-- A script that is cut behind a line feed is read part by part. -/
theorem read_append
    {s : Text}
    (h : Text.EndsLine s)
    (t : Text) :
    read (s ++ t) = (do
      let first ← read s
      let second ← ((read t).map (List.map (Statement.downBy (Text.lines s).length))).mapError
        (ScriptError.downBy (Text.lines s).length)
      return body first ++ second) := by
  simp only [read, Text.lines_append h, readLines_append, readLines_add]

end Script

/--
A script that is cut behind a line feed can be read exactly if both parts can.  Its statements are
those of the first part without the end marker, and then those of the second part, which stand
further down by the number of lines of the first.  Otherwise the error is that of the first part, or
if there is none, that of the second part, further down likewise.  In every script that is read the
lines increase, and the only end marker stands at the end, on the line behind the last one.
-/
theorem scripts_concatenate
    {s : Text}
    (h : s = [] ∨ s.getLast? = some (.char '\n'))
    (t : Text) :
    let count := (Text.lines s).length
    ((∃ statements, Script.read (s ++ t) = .ok statements)
        ↔ (∃ first, Script.read s = .ok first) ∧ ∃ second, Script.read t = .ok second)
      ∧ (∀ first second, Script.read s = .ok first → Script.read t = .ok second →
        first = Script.body first ++ [⟨count + 1, .finish⟩]
          ∧ Script.read (s ++ t)
            = .ok (Script.body first
              ++ second.map fun statement => { statement with line := statement.line + count }))
      ∧ (∀ e, Script.read s = .error e → Script.read (s ++ t) = .error e)
      ∧ (∀ first e, Script.read s = .ok first → Script.read t = .error e →
        ∃ fault line, e = .onLine fault line
          ∧ Script.read (s ++ t) = .error (.onLine fault (line + count)))
      ∧ ∀ text statements, Script.read text = .ok statements →
        statements.Pairwise (fun a b => a.line < b.line)
          ∧ statements = Script.body statements ++ [⟨(Text.lines text).length + 1, .finish⟩]
          ∧ ∀ statement ∈ Script.body statements, statement.directive ≠ .finish := by
  intro count
  have happend := Script.read_append h t
  have hnumbered (text : Text) (statements : List Statement)
      (hread : Script.read text = .ok statements) :
      Script.Numbered 1 ((Text.lines text).length + 1) statements := by
    have hlines := Script.numbered_of_readLines hread
    rwa [Nat.add_comm, Int.natCast_add] at hlines
  refine ⟨?_, ?_, ?_, ?_, ?_⟩
  · rw [happend]
    cases Script.read s with
    | error e => simp [bind, Except.bind]
    | ok first =>
        cases Script.read t with
        | error e => simp [bind, Except.bind, Except.map]
        | ok second => simp [bind, Except.bind, Except.map, pure, Except.pure]
  · intro first second hfirst hsecond
    refine ⟨(hnumbered s first hfirst).eq_body, ?_⟩
    rw [happend, hfirst, hsecond]
    rfl
  · intro e he
    rw [happend, he]
    rfl
  · intro first e hfirst he
    obtain ⟨fault, line, rfl⟩ := Script.exists_onLine_of_readLines he
    refine ⟨fault, line, rfl, ?_⟩
    rw [happend, hfirst, he]
    rfl
  · intro text statements hread
    have hlines := hnumbered text statements hread
    exact ⟨hlines.increasing, hlines.eq_body, fun _ => Script.ne_finish_of_mem_body⟩

/-- Behind two lines, a second part that cannot be read from its second line on. -/
theorem scripts_concatenate_refused :
    let s : Text := "push\r\n// nothing\n"
    let t : Text := "pop\npush 1"
    (s = [] ∨ s.getLast? = some (.char '\n'))
      ∧ Script.read s = .ok [⟨1, .push⟩, ⟨3, .finish⟩]
      ∧ Script.read t = .error (.onLine (.operandCount "push" [0] 1) 2)
      ∧ Script.read (s ++ t) = .error (.onLine (.operandCount "push" [0] 1) 4) := by
  intro s t
  have hends : s = [] ∨ s.getLast? = some (.char '\n') := .inr rfl
  have hfirst : Script.read (Text.ofString "push\r\n// nothing\n")
      = .ok [⟨1, .push⟩, ⟨3, .finish⟩] := by cbv
  have hsecond : Script.read (Text.ofString "pop\npush 1")
      = .error (.onLine (.operandCount "push" [0] 1) 2) := by cbv
  have hcount : (Text.lines (Text.ofString "push\r\n// nothing\n")).length = 2 := by cbv
  obtain ⟨_, _, _, hbehind, _⟩ := scripts_concatenate hends t
  obtain ⟨fault, line, he, hread⟩ := hbehind _ _ hfirst hsecond
  cases he
  rw [hcount] at hread
  exact ⟨hends, hfirst, hsecond, hread⟩

end Diorama
