import Diorama.Directive.Reader
import Diorama.Proofs.Number.Whole
import Mathlib.Data.List.Forall2

/-!
# Signatures of directives

What a directive may be spelled as, said on its operands instead of on the order in which they are
read: names, numbers, and an optional name in front of the numbers or behind them.  A reading
either comes to a directive that is spelled so, or fails to parse.

**Main statements.**
* `reads_ofTokens`: what is read under a keyword is spelled by its operands.
* `ofTokens_of_spelled`: what is spelled by operands is read from them.
* `ofTokens_eq_ok_iff`, `ofTokens_of_not_spelled`: the operands that a keyword takes.
* `ofTokens_of_not_mem`: a word that is no keyword is kept with all that follows it.
-/

namespace Diorama

namespace Directive

/-- A word that reads as a finite number. -/
def IsNumber
    (token : Text)
    (x : Float) :
    Prop :=
  Number.readFloat? token = some x ∧ x.isFinite = true

/-- A word that does not read as a finite number. -/
def IsName
    (token : Text) :
    Prop :=
  ∀ x, ¬IsNumber token x

/-- Words that read as finite numbers, one by one. -/
abbrev AreNumbers : List Text → List Float → Prop :=
  List.Forall₂ IsNumber

/-- No word for no name, and one word for a name. -/
inductive OptionalName : List Text → Option Text → Prop
  | absent :
      OptionalName [] none
  | present
      {token : Text}
      (hname : IsName token) :
      OptionalName [token] (some token)

/-- A word that reads as a whole number of at least `minimum`. -/
structure IsCount
    (minimum : Nat)
    (token : Text)
    (count : WholeNumber) : Prop where
  number : IsNumber token count.written
  whole : (Number.Exact.ofFloat count.written).IsInteger count.value
  bound : minimum ≤ count.value

/-- The words behind the keyword of a directive. -/
inductive Spelled : List Text → Directive → Prop
  | constants
      {name : Text}
      {tokens : List Text}
      {coefficients : Coefficients}
      (hname : IsName name)
      (hnumbers : AreNumbers tokens coefficients.toList) :
      Spelled (name :: tokens) (.constants name coefficients none)
  | coloured
      {name : Text}
      {tokens : List Text}
      {coefficients : Coefficients}
      {color : Vec3 Float}
      (hname : IsName name)
      (hnumbers : AreNumbers tokens (coefficients.toList ++ color.toList)) :
      Spelled (name :: tokens) (.constants name coefficients (some color))
  | push :
      Spelled [] .push
  | pop :
      Spelled [] .pop
  | move
      {tokens trail : List Text}
      {offset : Vec3 Float}
      {knob : Option Text}
      (hnumbers : AreNumbers tokens offset.toList)
      (hknob : OptionalName trail knob) :
      Spelled (tokens ++ trail) (.move offset knob)
  | rotate
      {axis angle : Text}
      {trail : List Text}
      {degrees : Float}
      {knob : Option Text}
      (haxis : IsName axis)
      (hangle : IsNumber angle degrees)
      (hknob : OptionalName trail knob) :
      Spelled ([axis, angle] ++ trail) (.rotate axis degrees knob)
  | scale
      {tokens trail : List Text}
      {factors : Vec3 Float}
      {knob : Option Text}
      (hnumbers : AreNumbers tokens factors.toList)
      (hknob : OptionalName trail knob) :
      Spelled (tokens ++ trail) (.scale factors knob)
  | sphere
      {front tokens : List Text}
      {material : Option Text}
      {center : Vec3 Float}
      {radius : Float}
      (hmaterial : OptionalName front material)
      (hnumbers : AreNumbers tokens (center.toList ++ [radius])) :
      Spelled (front ++ tokens) (.sphere material center radius)
  | box
      {front tokens : List Text}
      {material : Option Text}
      {corner size : Vec3 Float}
      (hmaterial : OptionalName front material)
      (hnumbers : AreNumbers tokens (corner.toList ++ size.toList)) :
      Spelled (front ++ tokens) (.box material corner size)
  | torus
      {front tokens : List Text}
      {material : Option Text}
      {center : Vec3 Float}
      {tube ring : Float}
      (hmaterial : OptionalName front material)
      (hnumbers : AreNumbers tokens (center.toList ++ [tube, ring])) :
      Spelled (front ++ tokens) (.torus material center tube ring)
  | line
      {tokens : List Text}
      {start stop : Vec3 Float}
      (hnumbers : AreNumbers tokens (start.toList ++ stop.toList)) :
      Spelled tokens (.line start stop)
  | display :
      Spelled [] .display
  | save
      {name : Text}
      (hname : IsName name) :
      Spelled [name] (.save name)
  | frames
      {token : Text}
      {count : WholeNumber}
      (hcount : IsCount 1 token count) :
      Spelled [token] (.frames count)
  | bareBasename :
      Spelled [] (.basename none)
  | basename
      (token : Text) :
      Spelled [token] (.basename (some token))
  | vary
      {knob low high left right : Text}
      {first last : WholeNumber}
      {start stop : Float}
      (hknob : IsName knob)
      (hfirst : IsCount 0 low first)
      (hlast : IsCount 0 high last)
      (hstart : IsNumber left start)
      (hstop : IsNumber right stop) :
      Spelled [knob, low, high, left, right] (.vary knob first last start stop)

/-- The words that begin the line of a directive. -/
def keywords : List Text :=
  ["constants", "push", "pop", "move", "rotate", "scale", "sphere", "box", "torus", "line",
    "display", "save", "frames", "basename", "vary"]

/-- A reading that comes to a result with a property, or fails to parse. -/
inductive Reads
    {β : Type}
    (P : β → Prop) :
    Except Fault β → Prop
  | done
      {b : β}
      (h : P b) :
      Reads P (.ok b)
  | refused
      {fault : Fault}
      (h : fault.kind = .parseFailure) :
      Reads P (.error fault)

section Readings

variable {β γ : Type} {P : β → Prop} {Q : γ → Prop}

theorem reads_bind
    {first : Except Fault β}
    {next : β → Except Fault γ}
    (hfirst : Reads P first)
    (hnext : ∀ b, P b → Reads Q (next b)) :
    Reads Q (first >>= next) := by
  cases hfirst with
  | done h => exact hnext _ h
  | refused h => exact .refused h

theorem ok_bind
    (b : β)
    (next : β → Except Fault γ) :
    ((.ok b : Except Fault β) >>= next) = next b :=
  rfl

theorem number?_eq_some_iff
    {token : Text}
    {x : Float} :
    number? token = some x ↔ IsNumber token x := by
  simp [number?, IsNumber, Option.filter_eq_some_iff]

theorem isName_iff
    {token : Text} :
    IsName token ↔ number? token = none := by
  simp only [IsName, ← number?_eq_some_iff, Option.eq_none_iff_forall_ne_some, ne_eq]

theorem reads_number
    (keyword token : Text) :
    Reads (IsNumber token) (readNumber keyword token) := by
  unfold readNumber
  split
  · rename_i x hx
    exact .done (number?_eq_some_iff.mp hx)
  · exact .refused rfl

theorem readNumber_of
    {token : Text}
    {x : Float}
    (h : IsNumber token x)
    (keyword : Text) :
    readNumber keyword token = .ok x := by
  rw [readNumber, number?_eq_some_iff.mpr h]

theorem reads_name
    (keyword token : Text) :
    Reads (fun name => name = token ∧ IsName token) (readName keyword token) := by
  unfold readName
  split
  · exact .refused rfl
  · rename_i hnone
    exact .done ⟨rfl, isName_iff.mpr hnone⟩

theorem readName_of
    {token : Text}
    (h : IsName token)
    (keyword : Text) :
    readName keyword token = .ok token := by
  rw [readName, isName_iff.mp h]

theorem reads_numbers
    (keyword : Text)
    (tokens : List Text) :
    Reads (AreNumbers tokens) (tokens.mapM (readNumber keyword)) := by
  induction tokens with
  | nil => exact .done .nil
  | cons token rest ih =>
      rw [List.mapM_cons]
      refine reads_bind (reads_number keyword token) fun x hx => ?_
      exact reads_bind ih fun xs hxs => .done (.cons hx hxs)

theorem mapM_readNumber_of
    {tokens : List Text}
    {xs : List Float}
    (h : AreNumbers tokens xs)
    (keyword : Text) :
    tokens.mapM (readNumber keyword) = .ok xs := by
  induction h with
  | nil => rfl
  | cons hx _ ih =>
      rw [List.mapM_cons, readNumber_of hx, ih]
      rfl

theorem reads_vec
    (keyword x y z : Text) :
    Reads (fun v => AreNumbers [x, y, z] v.toList) (readVec keyword x y z) := by
  refine reads_bind (reads_number keyword x) fun a ha => ?_
  refine reads_bind (reads_number keyword y) fun b hb => ?_
  refine reads_bind (reads_number keyword z) fun c hc => ?_
  exact .done (.cons ha (.cons hb (.cons hc .nil)))

theorem reads_wholeNumber
    (keyword label : Text)
    (minimum : Nat)
    {token : Text}
    {x : Float}
    (hx : IsNumber token x) :
    Reads (IsCount minimum token) (wholeNumber keyword label minimum x) := by
  unfold wholeNumber
  split
  · rename_i n hwhole htruncate
    split
    · rename_i hminimum
      have hn : ((n.toNat : Nat) : Int) = n := by omega
      refine .done ⟨hx, ?_, ?_⟩
      · rw [hn]
        exact (Number.Exact.isInteger_iff n _).mpr ⟨hwhole, htruncate⟩
      · simp only
        omega
    · exact .refused rfl
  · exact .refused rfl

theorem wholeNumber_of
    {minimum : Nat}
    {token : Text}
    {count : WholeNumber}
    (h : IsCount minimum token count)
    (keyword label : Text) :
    wholeNumber keyword label minimum count.written = .ok count := by
  obtain ⟨hwhole, htruncate⟩ := (Number.Exact.isInteger_iff _ _).mp h.whole
  have hbound : (minimum : Int) ≤ (count.value : Int) := by exact_mod_cast h.bound
  simp [wholeNumber, hwhole, htruncate, hbound]

theorem reads_leadingName
    (keyword : Text)
    (count : Nat)
    (tokens : List Text) :
    Reads (fun read => ∃ front, tokens = front ++ read.2 ∧ OptionalName front read.1)
      (leadingName keyword count tokens) := by
  unfold leadingName
  split
  · rename_i token rest
    split
    · refine reads_bind (reads_name keyword token) ?_
      rintro name ⟨rfl, hname⟩
      exact .done ⟨[name], rfl, .present hname⟩
    · exact .done ⟨[], rfl, .absent⟩
  · exact .done ⟨[], rfl, .absent⟩

theorem leadingName_of
    {front tokens : List Text}
    {name : Option Text}
    (h : OptionalName front name)
    (keyword : Text) :
    leadingName keyword tokens.length (front ++ tokens) = .ok (name, tokens) := by
  cases h with
  | absent =>
      cases tokens with
      | nil => rfl
      | cons token rest => simp [leadingName]
  | present hname => simp [leadingName, readName_of hname]

theorem reads_trailingName
    (keyword : Text)
    (count : Nat)
    (tokens : List Text) :
    Reads (fun read => ∃ trail, tokens = read.2 ++ trail ∧ OptionalName trail read.1)
      (trailingName keyword count tokens) := by
  unfold trailingName
  split
  · split
    · rename_i token hlast
      refine reads_bind (reads_name keyword token) ?_
      rintro name ⟨rfl, hname⟩
      refine .done ⟨[name], ?_, .present hname⟩
      exact (List.dropLast_append_getLast? name hlast).symm
    · exact .done ⟨[], (List.append_nil tokens).symm, .absent⟩
  · exact .done ⟨[], (List.append_nil tokens).symm, .absent⟩

theorem trailingName_of
    {tokens trail : List Text}
    {name : Option Text}
    (h : OptionalName trail name)
    (keyword : Text) :
    trailingName keyword tokens.length (tokens ++ trail) = .ok (name, tokens) := by
  cases h with
  | absent => simp [trailingName]
  | present hname => simp [trailingName, readName_of hname]

end Readings

section Readers

/-- A reading that comes to a directive under a keyword that is spelled so, or fails to parse. -/
abbrev ReadsUnder
    (keyword : Text)
    (tokens : List Text) :
    Except Fault Directive → Prop :=
  Reads fun directive => directive.keyword = keyword ∧ Spelled tokens directive

variable {keyword : Text}

theorem reads_readBare
    {directive : Directive}
    (hkeyword : directive.keyword = keyword)
    (hspelled : Spelled [] directive)
    (tokens : List Text) :
    ReadsUnder keyword tokens (readBare keyword directive tokens) := by
  unfold readBare
  split
  · rename_i hempty
    rw [List.isEmpty_iff.mp hempty]
    exact .done ⟨hkeyword, hspelled⟩
  · exact .refused rfl

theorem reads_readKnobbed
    (build : Vec3 Float → Option Text → Directive)
    (hkeyword : ∀ v knob, (build v knob).keyword = keyword)
    (hspelled : ∀ tokens trail v knob, AreNumbers tokens v.toList → OptionalName trail knob →
      Spelled (tokens ++ trail) (build v knob))
    (tokens : List Text) :
    ReadsUnder keyword tokens (readKnobbed keyword build tokens) := by
  refine reads_bind (reads_trailingName keyword 3 tokens) ?_
  rintro ⟨knob, rest⟩ ⟨trail, rfl, hknob⟩
  dsimp only
  split
  · refine reads_bind (reads_vec keyword _ _ _) fun v hv => ?_
    exact .done ⟨hkeyword v knob, hspelled _ trail v knob hv hknob⟩
  · exact .refused rfl

theorem ofList?_eq_some_iff
    {numbers : List Float}
    {coefficients : Coefficients} :
    Coefficients.ofList? numbers = some coefficients ↔ numbers = coefficients.toList := by
  constructor
  · intro h
    unfold Coefficients.ofList? at h
    split at h
    · cases h
      rfl
    · cases h
  · rintro rfl
    rfl

/-- Nine coefficients, and then nothing or three channels. -/
theorem reads_readConstants
    (tokens : List Text) :
    ReadsUnder "constants" tokens (readConstants tokens) := by
  unfold readConstants
  split
  · rename_i hlength
    split
    · rename_i name rest
      refine reads_bind (reads_name _ name) ?_
      rintro name ⟨rfl, hname⟩
      refine reads_bind (reads_numbers _ rest) fun numbers hnumbers => ?_
      have hcount : rest.length = numbers.length := hnumbers.length_eq
      rw [← List.take_append_drop 9 numbers] at hnumbers
      split
      · rename_i coefficients r g b htake hdrop
        rw [ofList?_eq_some_iff.mp htake, hdrop] at hnumbers
        have hcolor : AreNumbers rest (coefficients.toList ++ (Vec3.mk r g b).toList) := hnumbers
        exact .done ⟨rfl, .coloured hname hcolor⟩
      · rename_i coefficients htake hthree
        -- ten or thirteen words leave nothing or three numbers, and they are not three here
        have hdrop : numbers.drop 9 = [] := by
          rw [List.length_cons, hcount] at hlength
          have hfew : (numbers.drop 9).length = 0 ∨ (numbers.drop 9).length = 3 := by
            rw [List.length_drop]
            omega
          rcases hfew with hnone | hsome
          · exact List.length_eq_zero_iff.mp hnone
          · obtain ⟨r, g, b, hdrop⟩ := List.length_eq_three.mp hsome
            exact absurd hdrop (hthree r g b)
        rw [ofList?_eq_some_iff.mp htake, hdrop, List.append_nil] at hnumbers
        exact .done ⟨rfl, .constants hname hnumbers⟩
      · exact .refused rfl
    · exact .refused rfl
  · exact .refused rfl

theorem reads_readRotate
    (tokens : List Text) :
    ReadsUnder "rotate" tokens (readRotate tokens) := by
  refine reads_bind (reads_trailingName "rotate" 2 tokens) ?_
  rintro ⟨knob, rest⟩ ⟨trail, rfl, hknob⟩
  dsimp only
  split
  · rename_i axis angle
    refine reads_bind (reads_name "rotate" axis) ?_
    rintro axis ⟨rfl, haxis⟩
    refine reads_bind (reads_number "rotate" angle) fun degrees hangle => ?_
    exact .done ⟨rfl, .rotate haxis hangle hknob⟩
  · exact .refused rfl

theorem reads_readSphere
    (tokens : List Text) :
    ReadsUnder "sphere" tokens (readSphere tokens) := by
  refine reads_bind (reads_leadingName "sphere" 4 tokens) ?_
  rintro ⟨material, rest⟩ ⟨front, rfl, hmaterial⟩
  dsimp only
  split
  · refine reads_bind (reads_vec "sphere" _ _ _) fun center hcenter => ?_
    refine reads_bind (reads_number "sphere" _) fun radius hradius => ?_
    exact .done ⟨rfl, .sphere hmaterial (List.rel_append hcenter (.cons hradius .nil))⟩
  · exact .refused rfl

theorem reads_readBox
    (tokens : List Text) :
    ReadsUnder "box" tokens (readBox tokens) := by
  refine reads_bind (reads_leadingName "box" 6 tokens) ?_
  rintro ⟨material, rest⟩ ⟨front, rfl, hmaterial⟩
  dsimp only
  split
  · refine reads_bind (reads_vec "box" _ _ _) fun corner hcorner => ?_
    refine reads_bind (reads_vec "box" _ _ _) fun size hsize => ?_
    exact .done ⟨rfl, .box hmaterial (List.rel_append hcorner hsize)⟩
  · exact .refused rfl

theorem reads_readTorus
    (tokens : List Text) :
    ReadsUnder "torus" tokens (readTorus tokens) := by
  refine reads_bind (reads_leadingName "torus" 5 tokens) ?_
  rintro ⟨material, rest⟩ ⟨front, rfl, hmaterial⟩
  dsimp only
  split
  · refine reads_bind (reads_vec "torus" _ _ _) fun center hcenter => ?_
    refine reads_bind (reads_number "torus" _) fun tube htube => ?_
    refine reads_bind (reads_number "torus" _) fun ring hring => ?_
    exact .done ⟨rfl, .torus hmaterial (List.rel_append hcenter (.cons htube (.cons hring .nil)))⟩
  · exact .refused rfl

theorem reads_readLine
    (tokens : List Text) :
    ReadsUnder "line" tokens (readLine tokens) := by
  unfold readLine
  split
  · refine reads_bind (reads_vec "line" _ _ _) fun start hstart => ?_
    refine reads_bind (reads_vec "line" _ _ _) fun stop hstop => ?_
    exact .done ⟨rfl, .line (List.rel_append hstart hstop)⟩
  · exact .refused rfl

theorem reads_readSave
    (tokens : List Text) :
    ReadsUnder "save" tokens (readSave tokens) := by
  unfold readSave
  split
  · rename_i name
    refine reads_bind (reads_name "save" name) ?_
    rintro name ⟨rfl, hname⟩
    exact .done ⟨rfl, .save hname⟩
  · exact .refused rfl

theorem reads_readFrames
    (tokens : List Text) :
    ReadsUnder "frames" tokens (readFrames tokens) := by
  unfold readFrames
  split
  · refine reads_bind (reads_number "frames" _) fun x hx => ?_
    refine reads_bind (reads_wholeNumber "frames" "frame count" 1 hx) fun count hcount => ?_
    exact .done ⟨rfl, .frames hcount⟩
  · exact .refused rfl

theorem reads_readBasename
    (tokens : List Text) :
    ReadsUnder "basename" tokens (readBasename tokens) := by
  unfold readBasename
  split
  · exact .done ⟨rfl, .bareBasename⟩
  · exact .done ⟨rfl, .basename _⟩
  · exact .refused rfl

theorem reads_readVary
    (tokens : List Text) :
    ReadsUnder "vary" tokens (readVary tokens) := by
  unfold readVary
  split
  · rename_i knob low high left right
    refine reads_bind (reads_name "vary" knob) ?_
    rintro knob ⟨rfl, hknob⟩
    refine reads_bind (reads_number "vary" low) fun x hlow => ?_
    refine reads_bind (reads_number "vary" high) fun y hhigh => ?_
    refine reads_bind (reads_number "vary" left) fun start hstart => ?_
    refine reads_bind (reads_number "vary" right) fun stop hstop => ?_
    refine reads_bind (reads_wholeNumber "vary" "start frame" 0 hlow) fun first hfirst => ?_
    refine reads_bind (reads_wholeNumber "vary" "end frame" 0 hhigh) fun last hlast => ?_
    exact .done ⟨rfl, .vary hknob hfirst hlast hstart hstop⟩
  · exact .refused rfl

end Readers

section Spellings

/-- The numbers of a vector are the first three words. -/
theorem areNumbers_vec
    {tokens : List Text}
    {v : Vec3 Float}
    {xs : List Float}
    (h : AreNumbers tokens (v.toList ++ xs)) :
    ∃ x y z rest, tokens = x :: y :: z :: rest ∧ AreNumbers rest xs
      ∧ ∀ keyword, readVec keyword x y z = .ok v := by
  obtain _ | ⟨hx, _ | ⟨hy, _ | ⟨hz, hrest⟩⟩⟩ := h
  refine ⟨_, _, _, _, rfl, hrest, fun keyword => ?_⟩
  simp only [readVec, readNumber_of hx, readNumber_of hy, readNumber_of hz, ok_bind]
  rfl

/-- The numbers of a vector are three words. -/
theorem areNumbers_vec_only
    {tokens : List Text}
    {v : Vec3 Float}
    (h : AreNumbers tokens v.toList) :
    ∃ x y z, tokens = [x, y, z] ∧ ∀ keyword, readVec keyword x y z = .ok v := by
  rw [← List.append_nil v.toList] at h
  obtain ⟨x, y, z, rest, rfl, hrest, hvec⟩ := areNumbers_vec h
  cases hrest
  exact ⟨x, y, z, rfl, hvec⟩

/-- A single number is the only word. -/
theorem areNumbers_singleton
    {tokens : List Text}
    {x : Float}
    (h : AreNumbers tokens [x]) :
    ∃ token, tokens = [token] ∧ IsNumber token x := by
  obtain _ | ⟨hx, hrest⟩ := h
  cases hrest
  exact ⟨_, rfl, hx⟩

variable {front tokens trail : List Text}

theorem readConstants_of
    {name : Text}
    {coefficients : Coefficients}
    (hname : IsName name)
    (hnumbers : AreNumbers tokens coefficients.toList) :
    readConstants (name :: tokens) = .ok (.constants name coefficients none) := by
  have hlength : (name :: tokens).length = 10 := by
    rw [List.length_cons, hnumbers.length_eq]
    rfl
  rw [readConstants, if_pos (.inl hlength)]
  simp only [readName_of hname, mapM_readNumber_of hnumbers, ok_bind]
  rfl

theorem readConstants_of_coloured
    {name : Text}
    {coefficients : Coefficients}
    {color : Vec3 Float}
    (hname : IsName name)
    (hnumbers : AreNumbers tokens (coefficients.toList ++ color.toList)) :
    readConstants (name :: tokens) = .ok (.constants name coefficients (some color)) := by
  have hlength : (name :: tokens).length = 13 := by
    rw [List.length_cons, hnumbers.length_eq]
    rfl
  rw [readConstants, if_pos (.inr hlength)]
  simp only [readName_of hname, mapM_readNumber_of hnumbers, ok_bind]
  rfl

theorem readKnobbed_of
    (keyword : Text)
    (build : Vec3 Float → Option Text → Directive)
    {v : Vec3 Float}
    {knob : Option Text}
    (hnumbers : AreNumbers tokens v.toList)
    (hknob : OptionalName trail knob) :
    readKnobbed keyword build (tokens ++ trail) = .ok (build v knob) := by
  obtain ⟨x, y, z, rfl, hvec⟩ := areNumbers_vec_only hnumbers
  have htrail : trailingName keyword 3 ([x, y, z] ++ trail) = .ok (knob, [x, y, z]) :=
    trailingName_of hknob keyword
  simp only [readKnobbed, htrail, ok_bind, hvec]
  rfl

theorem readRotate_of
    {axis angle : Text}
    {degrees : Float}
    {knob : Option Text}
    (haxis : IsName axis)
    (hangle : IsNumber angle degrees)
    (hknob : OptionalName trail knob) :
    readRotate ([axis, angle] ++ trail) = .ok (.rotate axis degrees knob) := by
  have htrail : trailingName "rotate" 2 ([axis, angle] ++ trail) = .ok (knob, [axis, angle]) :=
    trailingName_of hknob "rotate"
  simp only [readRotate, htrail, ok_bind, readName_of haxis, readNumber_of hangle]
  rfl

theorem readSphere_of
    {material : Option Text}
    {center : Vec3 Float}
    {radius : Float}
    (hmaterial : OptionalName front material)
    (hnumbers : AreNumbers tokens (center.toList ++ [radius])) :
    readSphere (front ++ tokens) = .ok (.sphere material center radius) := by
  obtain ⟨x, y, z, rest, rfl, hrest, hcenter⟩ := areNumbers_vec hnumbers
  obtain ⟨r, rfl, hr⟩ := areNumbers_singleton hrest
  have hfront : leadingName "sphere" 4 (front ++ [x, y, z, r]) = .ok (material, [x, y, z, r]) :=
    leadingName_of hmaterial "sphere"
  simp only [readSphere, hfront, ok_bind, hcenter, readNumber_of hr]
  rfl

theorem readBox_of
    {material : Option Text}
    {corner size : Vec3 Float}
    (hmaterial : OptionalName front material)
    (hnumbers : AreNumbers tokens (corner.toList ++ size.toList)) :
    readBox (front ++ tokens) = .ok (.box material corner size) := by
  obtain ⟨x, y, z, rest, rfl, hrest, hcorner⟩ := areNumbers_vec hnumbers
  obtain ⟨w, h, d, rfl, hsize⟩ := areNumbers_vec_only hrest
  have hfront : leadingName "box" 6 (front ++ [x, y, z, w, h, d])
      = .ok (material, [x, y, z, w, h, d]) :=
    leadingName_of hmaterial "box"
  simp only [readBox, hfront, ok_bind, hcorner, hsize]
  rfl

theorem readTorus_of
    {material : Option Text}
    {center : Vec3 Float}
    {tube ring : Float}
    (hmaterial : OptionalName front material)
    (hnumbers : AreNumbers tokens (center.toList ++ [tube, ring])) :
    readTorus (front ++ tokens) = .ok (.torus material center tube ring) := by
  obtain ⟨x, y, z, rest, rfl, hrest, hcenter⟩ := areNumbers_vec hnumbers
  obtain _ | @⟨r, _, _, _, hr, hlast⟩ := hrest
  obtain ⟨s, rfl, hs⟩ := areNumbers_singleton hlast
  have hfront : leadingName "torus" 5 (front ++ [x, y, z, r, s])
      = .ok (material, [x, y, z, r, s]) :=
    leadingName_of hmaterial "torus"
  simp only [readTorus, hfront, ok_bind, hcenter, readNumber_of hr, readNumber_of hs]
  rfl

theorem readLine_of
    {start stop : Vec3 Float}
    (hnumbers : AreNumbers tokens (start.toList ++ stop.toList)) :
    readLine tokens = .ok (.line start stop) := by
  obtain ⟨x, y, z, rest, rfl, hrest, hstart⟩ := areNumbers_vec hnumbers
  obtain ⟨u, v, w, rfl, hstop⟩ := areNumbers_vec_only hrest
  simp only [readLine, hstart, hstop, ok_bind]
  rfl

theorem readSave_of
    {name : Text}
    (hname : IsName name) :
    readSave [name] = .ok (.save name) := by
  simp only [readSave, readName_of hname, ok_bind]
  rfl

theorem readFrames_of
    {token : Text}
    {count : WholeNumber}
    (hcount : IsCount 1 token count) :
    readFrames [token] = .ok (.frames count) := by
  simp only [readFrames, readNumber_of hcount.number, wholeNumber_of hcount, ok_bind]
  rfl

theorem readVary_of
    {knob low high left right : Text}
    {first last : WholeNumber}
    {start stop : Float}
    (hknob : IsName knob)
    (hfirst : IsCount 0 low first)
    (hlast : IsCount 0 high last)
    (hstart : IsNumber left start)
    (hstop : IsNumber right stop) :
    readVary [knob, low, high, left, right] = .ok (.vary knob first last start stop) := by
  simp only [readVary, ok_bind, readName_of hknob, readNumber_of hfirst.number,
    readNumber_of hlast.number, readNumber_of hstart, readNumber_of hstop,
    wholeNumber_of hfirst, wholeNumber_of hlast]
  rfl

end Spellings

section Keywords

variable {tokens : List Text} {directive : Directive}

/-- What is spelled by operands is read from them. -/
theorem ofTokens_of_spelled
    (h : Spelled tokens directive) :
    ofTokens directive.keyword tokens = .ok directive := by
  cases h
  all_goals simp only [ofTokens, keyword, kind, Text.toString?_ofString]
  case constants hname hnumbers => exact readConstants_of hname hnumbers
  case coloured hname hnumbers => exact readConstants_of_coloured hname hnumbers
  case push => rfl
  case pop => rfl
  case move hnumbers hknob => exact readKnobbed_of _ .move hnumbers hknob
  case rotate haxis hangle hknob => exact readRotate_of haxis hangle hknob
  case scale hnumbers hknob => exact readKnobbed_of _ .scale hnumbers hknob
  case sphere hmaterial hnumbers => exact readSphere_of hmaterial hnumbers
  case box hmaterial hnumbers => exact readBox_of hmaterial hnumbers
  case torus hmaterial hnumbers => exact readTorus_of hmaterial hnumbers
  case line hnumbers => exact readLine_of hnumbers
  case display => rfl
  case save hname => exact readSave_of hname
  case frames hcount => exact readFrames_of hcount
  case bareBasename => rfl
  case basename => rfl
  case vary hknob hfirst hlast hstart hstop => exact readVary_of hknob hfirst hlast hstart hstop

/-- What is read under a keyword is spelled by its operands. -/
theorem reads_ofTokens
    {keyword : Text}
    (h : keyword ∈ keywords)
    (tokens : List Text) :
    ReadsUnder keyword tokens (ofTokens keyword tokens) := by
  simp only [keywords, List.mem_cons, List.not_mem_nil, or_false] at h
  rcases h with rfl | rfl | rfl | rfl | rfl | rfl | rfl | rfl | rfl | rfl | rfl | rfl | rfl | rfl
    | rfl
  all_goals simp only [ofTokens, Text.toString?_ofString]
  · exact reads_readConstants tokens
  · exact reads_readBare rfl .push tokens
  · exact reads_readBare rfl .pop tokens
  · exact reads_readKnobbed .move (fun _ _ => rfl) (fun _ _ _ _ => .move) tokens
  · exact reads_readRotate tokens
  · exact reads_readKnobbed .scale (fun _ _ => rfl) (fun _ _ _ _ => .scale) tokens
  · exact reads_readSphere tokens
  · exact reads_readBox tokens
  · exact reads_readTorus tokens
  · exact reads_readLine tokens
  · exact reads_readBare rfl .display tokens
  · exact reads_readSave tokens
  · exact reads_readFrames tokens
  · exact reads_readBasename tokens
  · exact reads_readVary tokens

/-- A word that is no keyword is kept with all that follows it. -/
theorem ofTokens_of_not_mem
    {keyword : Text}
    (h : keyword ∉ keywords)
    (tokens : List Text) :
    ofTokens keyword tokens = .ok (.unknown keyword tokens) := by
  unfold ofTokens
  split
  case h_16 => rfl
  all_goals
    rename_i hword
    rw [Text.toString?_eq_some_iff.mp hword] at h
    exact absurd (by simp [keywords]) h

/-- The directives that are read under a keyword are those that the operands spell. -/
theorem ofTokens_eq_ok_iff
    {keyword : Text}
    (h : keyword ∈ keywords) :
    ofTokens keyword tokens = .ok directive
      ↔ directive.keyword = keyword ∧ Spelled tokens directive := by
  constructor
  · intro hread
    have hreads := reads_ofTokens h tokens
    rw [hread] at hreads
    cases hreads with
    | done hspelled => exact hspelled
  · rintro ⟨rfl, hspelled⟩
    exact ofTokens_of_spelled hspelled

/-- Operands that spell nothing under a keyword are refused. -/
theorem ofTokens_of_not_spelled
    {keyword : Text}
    (h : keyword ∈ keywords)
    (hnone : ∀ directive, directive.keyword = keyword → ¬Spelled tokens directive) :
    ∃ fault, fault.kind = .parseFailure ∧ ofTokens keyword tokens = .error fault := by
  have hreads := reads_ofTokens h tokens
  cases hread : ofTokens keyword tokens with
  | ok directive =>
      obtain ⟨hkeyword, hspelled⟩ := (ofTokens_eq_ok_iff h).mp hread
      exact absurd hspelled (hnone directive hkeyword)
  | error fault =>
      rw [hread] at hreads
      cases hreads with
      | refused hkind => exact ⟨fault, hkind, rfl⟩

/-- What is read is spelled by its operands, or kept as it is. -/
theorem spelled_or_unknown_of_ofTokens
    {keyword : Text}
    (h : ofTokens keyword tokens = .ok directive) :
    Spelled tokens directive ∨ directive = .unknown keyword tokens := by
  by_cases hkeyword : keyword ∈ keywords
  · exact .inl ((ofTokens_eq_ok_iff hkeyword).mp h).2
  · rw [ofTokens_of_not_mem hkeyword] at h
    exact .inr (Except.ok.inj h).symm

/-- No words are read as an end marker. -/
theorem ofTokens_ne_finish
    (keyword : Text)
    (tokens : List Text) :
    ofTokens keyword tokens ≠ .ok .finish := by
  intro h
  rcases spelled_or_unknown_of_ofTokens h with hspelled | hunknown
  · cases hspelled
  · cases hunknown

end Keywords

end Directive
end Diorama
