import CertFailover.Proofs.Substitution

/-!
The grammar of lines. A text spells its fields with a comma or the end after each, and any number of
further commas anywhere between them. Only these commas are lost on the way to the fields, and only
the first five fields have a part in what a line comes to.
-/

namespace CertFailover

theorem Text.pieces_append (separator : Char) (first second : String) :
    pieces separator (first ++ String.singleton separator ++ second) =
      pieces separator first ++ pieces separator second := by
  have split : (first.toList ++ separator :: second.toList).splitOn separator =
      first.toList.splitOn separator ++ second.toList.splitOn separator :=
    List.splitOnP_append_cons _ _ (BEq.rfl)
  simp [pieces, split]

namespace Entry

/-- How a text is made up of its fields, which are not empty and hold no comma. -/
inductive Spells : List String → String → Prop
  | nothing : Spells [] ""
  | comma {fields text} (rest : Spells fields text) : Spells fields ("," ++ text)
  | last {field} (nonempty : field ≠ "") (clean : fieldSeparator ∉ field.toList) :
      Spells [field] field
  | field {field fields text} (nonempty : field ≠ "") (clean : fieldSeparator ∉ field.toList)
      (rest : Spells fields text) : Spells (field :: fields) (field ++ "," ++ text)

/-- Texts that differ by commas at an end or next to another comma only. -/
inductive Respaced : String → String → Prop
  | leading (text) : Respaced ("," ++ text) text
  | trailing (text) : Respaced (text ++ ",") text
  | doubled (before after) :
      Respaced (before ++ "," ++ ("," ++ after)) (before ++ "," ++ after)
  | refl (text) : Respaced text text
  | symm {text other} : Respaced text other → Respaced other text
  | trans {text middle other} : Respaced text middle → Respaced middle other →
      Respaced text other

theorem fields_append (first second : String) :
    fields (first ++ "," ++ second) = fields first ++ fields second :=
  Text.pieces_append fieldSeparator first second

theorem fields_empty : fields "" = [] :=
  rfl

theorem fields_comma (text : String) : fields ("," ++ text) = fields text := by
  have split := fields_append "" text
  rwa [String.empty_append, fields_empty, List.nil_append] at split

theorem joined_singleton (field : String) : joined [field] = field :=
  String.intercalate_singleton

theorem joined_cons_cons (first next : String) (rest : List String) :
    joined (first :: next :: rest) = first ++ "," ++ joined (next :: rest) :=
  String.intercalate_cons_cons

theorem fields_of_clean {field : String} (nonempty : field ≠ "")
    (clean : fieldSeparator ∉ field.toList) : fields field = [field] := by
  rw [← joined_singleton field, fields_joined (by simpa using clean), joined_singleton]
  simp [nonempty]

theorem Spells.fields {fields : List String} {text : String} (spelt : Spells fields text) :
    Entry.fields text = fields := by
  induction spelt with
  | nothing => exact fields_empty
  | comma rest ih => rw [fields_comma, ih]
  | last nonempty clean => exact fields_of_clean nonempty clean
  | field nonempty clean rest ih =>
      rw [fields_append, fields_of_clean nonempty clean, ih, List.singleton_append]

theorem spells_joined {stretches : List String}
    (clean : ∀ stretch ∈ stretches, fieldSeparator ∉ stretch.toList) :
    Spells (stretches.filter (· ≠ "")) (joined stretches) := by
  induction stretches with
  | nil => exact .nothing
  | cons first rest ih =>
      rw [List.forall_mem_cons] at clean
      have later := ih clean.2
      by_cases empty : first = ""
      · subst empty
        cases rest with
        | nil => exact .nothing
        | cons next others =>
            rw [joined_cons_cons, String.empty_append]
            exact .comma later
      · rw [List.filter_cons_of_pos (by simpa using empty)]
        cases rest with
        | nil =>
            rw [joined_singleton]
            exact .last empty clean.1
        | cons next others =>
            rw [joined_cons_cons]
            exact .field empty clean.1 later

theorem spells_iff {fields : List String} {text : String} :
    Spells fields text ↔ Entry.fields text = fields := by
  refine ⟨Spells.fields, ?_⟩
  rintro rfl
  obtain ⟨stretches, _, clean, rfl⟩ := exists_joined text
  rw [fields_joined clean]
  exact spells_joined clean

theorem Respaced.fields {text other : String} (respaced : Respaced text other) :
    fields text = fields other := by
  induction respaced with
  | leading text => exact fields_comma text
  | trailing text =>
      have split := fields_append text ""
      rwa [String.append_empty, fields_empty, List.append_nil] at split
  | doubled before after => rw [fields_append, fields_append, fields_comma]
  | refl text => rfl
  | symm _ ih => exact ih.symm
  | trans _ _ ihFirst ihSecond => exact ihFirst.trans ihSecond

theorem Respaced.after {text other : String} (respaced : Respaced text other) (front : String) :
    Respaced (front ++ "," ++ text) (front ++ "," ++ other) := by
  induction respaced with
  | leading text => exact .doubled front text
  | trailing text =>
      rw [← String.append_assoc]
      exact .trailing _
  | doubled before after =>
      have whole := Respaced.doubled (front ++ "," ++ before) after
      simpa only [String.append_assoc] using whole
  | refl text => exact .refl _
  | symm _ ih => exact ih.symm
  | trans _ _ ihFirst ihSecond => exact ihFirst.trans ihSecond

theorem Spells.respaced {fields : List String} {text : String} (spelt : Spells fields text) :
    Respaced text (joined fields) := by
  induction spelt with
  | nothing => exact .refl _
  | comma rest ih => exact (Respaced.leading _).trans ih
  | @last field nonempty clean =>
      rw [joined_singleton]
      exact .refl field
  | @field field fields text nonempty clean rest ih =>
      have whole := ih.after field
      cases fields with
      | nil =>
          have nothing : joined [] = "" := rfl
          rw [nothing, String.append_empty] at whole
          rw [joined_singleton]
          exact whole.trans (.trailing field)
      | cons next others =>
          rw [joined_cons_cons]
          exact whole

theorem respaced_iff {text other : String} :
    Respaced text other ↔ fields text = fields other := by
  refine ⟨Respaced.fields, fun same => ?_⟩
  have first : Respaced text (joined (fields text)) := (spells_iff.mpr rfl).respaced
  have second : Respaced other (joined (fields other)) := (spells_iff.mpr rfl).respaced
  rw [same] at first
  exact first.trans second.symm

/-- What the fields after the tags come to. They are examined in their order, each for its presence
and those with a bound for their length. -/
structure Judged (number : Nat) (fields : List String) (outcome : Except ConfigFault Entry) :
    Prop where
  accepted : (∃ entry, outcome = .ok entry) ↔
    4 ≤ fields.length ∧ (∀ uri ∈ fields[2]?, uri.utf8ByteSize < Limit.path) ∧
      ∀ reference ∈ fields[3]?, reference.utf8ByteSize < Limit.parameter
  entry : ∀ entry, outcome = .ok entry →
    fields[0]? = some entry.label ∧ fields[2]? = some entry.uri ∧
      fields[3]? = some entry.credentialRef
  few : fields.length < 3 → outcome = .error (.missingFields number)
  longUri : ∀ uri ∈ fields[2]?, Field.uri.limit ≤ uri.utf8ByteSize →
    outcome = .error (.fieldTooLong number .uri uri.utf8ByteSize)
  three : fields.length = 3 → (∀ uri ∈ fields[2]?, uri.utf8ByteSize < Field.uri.limit) →
    outcome = .error (.missingFields number)
  longReference : (∀ uri ∈ fields[2]?, uri.utf8ByteSize < Field.uri.limit) →
    ∀ reference ∈ fields[3]?, Field.credentialRef.limit ≤ reference.utf8ByteSize →
      outcome = .error (.fieldTooLong number .credentialRef reference.utf8ByteSize)

theorem judged_ofFields (number : Nat) (fields : List String) :
    Judged number fields (ofFields number fields) := by
  match fields with
  | [] | [_] | [_, _] => constructor <;> simp [ofFields]
  | [label, kind, uri] =>
      by_cases fits : uri.utf8ByteSize < Limit.path
      · constructor <;> simp [ofFields, Field.fits, Field.limit, fits]
      · constructor <;> simp [ofFields, Field.fits, Field.limit, fits]
  | label :: kind :: uri :: reference :: rest =>
      by_cases fits : uri.utf8ByteSize < Limit.path
      · by_cases within : reference.utf8ByteSize < Limit.parameter
        · constructor <;> simp [ofFields, Field.fits, Field.limit, fits, within]
        · constructor <;> simp [ofFields, Field.fits, Field.limit, fits, within]
      · constructor <;> simp [ofFields, Field.fits, Field.limit, fits]

theorem ofFields_take (number : Nat) (fields : List String) :
    ofFields number (fields.take 4) = ofFields number fields := by
  match fields with
  | [] | [_] | [_, _] | [_, _, _] | _ :: _ :: _ :: _ :: _ => rfl

theorem reading_of_take {text other : String}
    (same : (fields text).take 5 = (fields other).take 5) (number : Nat) :
    ofFields number (fields text).tail = ofFields number (fields other).tail ∧
      ∀ group, (fields text).head?.any (belongs · group) =
        (fields other).head?.any (belongs · group) := by
  cases first : fields text with
  | nil =>
      cases second : fields other with
      | nil => exact ⟨rfl, fun _ => rfl⟩
      | cons tags rest =>
          rw [first, second] at same
          cases same
  | cons tags rest =>
      cases second : fields other with
      | nil =>
          rw [first, second] at same
          cases same
      | cons others more =>
          rw [first, second, List.take_succ_cons, List.take_succ_cons, List.cons.injEq] at same
          obtain ⟨rfl, tails⟩ := same
          refine ⟨?_, fun _ => rfl⟩
          rw [List.tail_cons, List.tail_cons, ← ofFields_take, tails, ofFields_take]

/-- Each text spells one row of fields. An entry is read from those after the first, which are
examined in their order with their lengths in bytes. Commas next to others or at an end and fields
after the fifth have no part in what is read, nor in whose groups the line belongs to. -/
theorem grammar_exact (number : Nat) :
    (∀ text, ∃! fields, Spells fields text) ∧
      (∀ text tags rest, Spells (tags :: rest) text →
        fields text = tags :: rest ∧ Judged number rest (ofFields number (fields text).tail)) ∧
      (∀ text other, Respaced text other ↔ fields text = fields other) ∧
      ∀ text other, Respaced text other ∨ (fields text).take 5 = (fields other).take 5 →
        ofFields number (fields text).tail = ofFields number (fields other).tail ∧
          ∀ group, (fields text).head?.any (belongs · group) =
            (fields other).head?.any (belongs · group) := by
  refine ⟨?_, ?_, fun _ _ => respaced_iff, ?_⟩
  · intro text
    refine ⟨fields text, spells_iff.mpr rfl, ?_⟩
    intro others spelt
    exact spelt.fields.symm
  · intro text tags rest spelt
    have split := spelt.fields
    rw [split, List.tail_cons]
    exact ⟨rfl, judged_ofFields number rest⟩
  · rintro text other (respaced | same)
    · rw [respaced.fields]
      exact ⟨rfl, fun _ => rfl⟩
    · exact reading_of_take same number

/-- The uri has half as many characters as the bound has bytes, and its bytes reach the bound before
the missing reference is noticed. -/
def accentedUri : String :=
  String.ofList (List.replicate 64 'é')

theorem grammar_exact_sample :
    let text := ",G|H,,L,P12," ++ accentedUri ++ ","
    let plain := "G|H,L,P12," ++ accentedUri
    let whole := "G,L,P12,a.p12,pc,more,,and more"
    Spells ["G|H", "L", "P12", accentedUri] text ∧ Respaced text plain ∧
      ofFields 7 (fields text).tail = .error (.fieldTooLong 7 .uri Limit.path) ∧
      ofFields 7 (fields plain).tail = .error (.fieldTooLong 7 .uri Limit.path) ∧
      (fields text).head?.any (belongs · "H") = true ∧
      (fields plain).head?.any (belongs · "H") = true ∧
      ofFields 7 (fields whole).tail = ofFields 7 (fields "G,L,P12,a.p12,pc").tail := by
  intro text plain whole
  obtain ⟨_, read, spaced, same⟩ := grammar_exact 7
  have spelt : Spells ["G|H", "L", "P12", accentedUri] text := spells_iff.mpr (by decide +kernel)
  have respaced : Respaced text plain := (spaced text plain).mpr (by decide +kernel)
  obtain ⟨split, judged⟩ := read text _ _ spelt
  have refused := judged.longUri accentedUri rfl (by decide +kernel)
  have size : accentedUri.utf8ByteSize = Limit.path := by decide +kernel
  have belongs : (fields text).head?.any (belongs · "H") = true := by
    rw [split]
    decide +kernel
  obtain ⟨parsed, tags⟩ := same text plain (.inl respaced)
  rw [size] at refused
  exact ⟨spelt, respaced, refused, parsed ▸ refused, belongs, tags "H" ▸ belongs,
    (same whole _ (.inr (by decide +kernel))).1⟩

end Entry

end CertFailover
