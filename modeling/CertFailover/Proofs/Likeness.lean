import CertFailover.Proofs.Secrecy
import CertFailover.Proofs.Soundness

/-!
Likeness of two runs. What is alike is the same but for credential references, which only
correspond. As long as lookups give entries alike and references that correspond are answered alike,
all operations go the same way in both runs and log the same, but for how credentials failed.
-/

namespace CertFailover

/-- Which credential references correspond in two runs, and which failures to answer them. -/
structure Likeness where
  reference : String → String → Prop
  fault : CredentialFault → CredentialFault → Prop

inductive Matching {ε δ α β : Type} (faults : ε → δ → Prop) (values : α → β → Prop) :
    Except ε α → Except δ β → Prop
  | failed {fault : ε} {other : δ} (related : faults fault other) :
      Matching faults values (.error fault) (.error other)
  | given {value : α} {other : β} (related : values value other) :
      Matching faults values (.ok value) (.ok other)

theorem matching_self {ε α : Type} {values : α → α → Prop} (related : ∀ value, values value value)
    (result : Except ε α) : Matching Eq values result result := by
  cases result with
  | error fault => exact .failed rfl
  | ok value => exact .given (related value)

theorem Matching.bind {ε α β γ δ : Type} {values : α → β → Prop} {results : γ → δ → Prop}
    {first : Except ε α} {second : Except ε β} (matching : Matching Eq values first second)
    {next : α → Except ε γ} {twin : β → Except ε δ}
    (nexts : ∀ value other, values value other → Matching Eq results (next value) (twin other)) :
    Matching Eq results (first.bind next) (second.bind twin) := by
  cases matching with
  | failed related => exact .failed related
  | given related => exact nexts _ _ related

def SameReply {α β γ : Type} (states : α → β → Prop) (outcome : α × γ) (twin : β × γ) : Prop :=
  states outcome.1 twin.1 ∧ outcome.2 = twin.2

section

variable (like : Likeness)

inductive Entry.Alike : Entry → Entry → Prop
  | mk (label uri : String) {reference other : String} (related : like.reference reference other) :
      Alike ⟨label, uri, reference⟩ ⟨label, uri, other⟩

inductive Candidate.Alike : Candidate → Candidate → Prop
  | mk (ordinal : Nat) {entry twin : Entry} (same : entry.Alike like twin) :
      Alike ⟨ordinal, entry⟩ ⟨ordinal, twin⟩

inductive Stage.Alike : Stage → Stage → Prop
  | fresh : Alike (.ready none) (.ready none)
  | ready {candidate twin : Candidate} (same : candidate.Alike like twin) :
      Alike (.ready (some candidate)) (.ready (some twin))
  | checkedOut {candidate twin : Candidate} (same : candidate.Alike like twin)
      (passcode : Passcode) : Alike (.checkedOut candidate passcode) (.checkedOut twin passcode)
  | exhausted : Alike .exhausted .exhausted
  | destroyed : Alike .destroyed .destroyed

inductive Selector.Alike : Selector → Selector → Prop
  | mk (configPath group : String) (engine? : Option String) (quarantine : Quarantine)
      {stage twin : Stage} (same : stage.Alike like twin) :
      Alike ⟨configPath, group, engine?, quarantine, stage⟩
        ⟨configPath, group, engine?, quarantine, twin⟩

inductive Located.Alike : Located → Located → Prop
  | mk {entry twin : Entry} (same : entry.Alike like twin) (passcode : Passcode) :
      Alike ⟨entry, passcode⟩ ⟨twin, passcode⟩

inductive Locator.Alike : Locator → Locator → Prop
  | idle (configPath : String) (engine? : Option String) (live : Bool) :
      Alike ⟨configPath, engine?, live, none⟩ ⟨configPath, engine?, live, none⟩
  | holding (configPath : String) (engine? : Option String) (live : Bool) {located twin : Located}
      (same : located.Alike like twin) :
      Alike ⟨configPath, engine?, live, some located⟩ ⟨configPath, engine?, live, some twin⟩

inductive Event.Alike : Event → Event → Prop
  | same (event : Event) : Alike event event
  | credentialFailed {fault other : CredentialFault} (related : like.fault fault other) :
      Alike (.credentialFailed fault) (.credentialFailed other)

structure Logged.Alike {α β : Type} (values : α → β → Prop) (computation : Logged α)
    (twin : Logged β) : Prop where
  value : values computation.value twin.value
  events : List.Forall₂ (Event.Alike like) computation.events twin.events

/-- Surroundings in which the same files are there, with the same times, and in which references
that correspond are answered alike. -/
structure Host.Alike (host twin : Host) : Prop where
  modified : ∀ path, host.files.modified? path = twin.files.modified? path
  answers : ∀ {reference other}, like.reference reference other →
    Matching like.fault Eq (host.credentials reference) (twin.credentials other)

def Lookup.AlikeIn (path group : String) (files twin : FileTree) : Prop :=
  ∀ ordinal, Matching Eq (Entry.Alike like) (inGroup files path group ordinal)
    (inGroup twin path group ordinal)

def Lookup.AlikeUnder (path : String) (files twin : FileTree) : Prop :=
  ∀ label, Matching Eq (Entry.Alike like) (byLabel files path label) (byLabel twin path label)

end

variable {like : Likeness}

theorem Entry.Alike.describe {entry twin : Entry} (alike : entry.Alike like twin) :
    entry.describe = twin.describe := by
  cases alike
  rfl

namespace Logged

variable {α β γ δ : Type} {values : α → β → Prop} {results : γ → δ → Prop}

theorem alike_rfl (computation : Logged α) : computation.Alike like Eq computation :=
  ⟨rfl, List.forall₂_same.mpr fun event _ => .same event⟩

theorem alike_pure {value : α} {other : β} (related : values value other) :
    (pure value : Logged α).Alike like values (pure other) :=
  ⟨related, .nil⟩

theorem Alike.bind {first : Logged α} {second : Logged β} {next : α → Logged γ}
    {twin : β → Logged δ} (firsts : first.Alike like values second)
    (nexts : ∀ value other, values value other →
      (next value).Alike like results (twin other)) :
    (first >>= next).Alike like results (second >>= twin) := by
  have rest := nexts _ _ firsts.value
  exact ⟨rest.value, List.rel_append firsts.events rest.events⟩

theorem Alike.after {computation : Logged γ} {twin : Logged δ}
    (alike : computation.Alike like results twin) (first : Logged Unit) :
    (first >>= fun _ => computation).Alike like results (first >>= fun _ => twin) :=
  (alike_rfl first).bind fun _ _ _ => alike

end Logged

namespace Selector

variable {selector twin : Selector} {host mirror : Host}

theorem Alike.view (alike : selector.Alike like twin) : selector.view = twin.view := by
  obtain ⟨configPath, group, engine?, quarantine, same⟩ := alike
  cases same with
  | fresh | exhausted | destroyed => rfl
  | ready same | checkedOut same =>
      obtain ⟨ordinal, entries⟩ := same
      cases entries
      rfl

theorem Alike.describe (alike : selector.Alike like twin) : selector.describe = twin.describe := by
  obtain ⟨configPath, group, engine?, quarantine, same⟩ := alike
  cases same with
  | fresh | exhausted | destroyed => rfl
  | ready same | checkedOut same =>
      obtain ⟨ordinal, entries⟩ := same
      cases entries
      rfl

theorem Alike.seek (alike : selector.Alike like twin) {files others : FileTree}
    (lookups : Lookup.AlikeIn like selector.configPath selector.group files others)
    (ordinal : Nat) :
    (selector.seek files ordinal).Alike like (Matching Eq (Candidate.Alike like))
      (twin.seek others ordinal) := by
  obtain ⟨configPath, group, engine?, quarantine, same⟩ := alike
  have found := lookups ordinal
  simp only [Selector.seek] at found ⊢
  generalize Lookup.inGroup files configPath group ordinal = entry at found
  generalize Lookup.inGroup others configPath group ordinal = other at found
  cases found with
  | failed related =>
      subst related
      exact Logged.alike_pure (.failed rfl)
  | given same =>
      have candidates := Candidate.Alike.mk ordinal same
      cases same
      exact (Logged.alike_pure (.given candidates)).after _

theorem Alike.giveUp (alike : selector.Alike like twin) : selector.giveUp = twin.giveUp := by
  obtain ⟨configPath, group, engine?, quarantine, same⟩ := alike
  funext fault
  cases fault <;> rfl

theorem judge_alike (hosts : host.Alike like mirror) {candidate other : Candidate}
    (same : candidate.Alike like other) (quarantine : Quarantine) :
    judge host quarantine candidate = judge mirror quarantine other := by
  obtain ⟨ordinal, entries⟩ := same
  cases entries
  rw [judge, judge, hosts.modified]
  rfl

theorem unlock_alike (hosts : host.Alike like mirror) {entry other : Entry}
    (same : entry.Alike like other) :
    (unlock host entry).Alike like Eq (unlock mirror other) := by
  obtain ⟨label, uri, related⟩ := same
  have answers := hosts.answers related
  rw [unlock, unlock]
  generalize host.credentials _ = answer at answers
  generalize mirror.credentials _ = reply at answers
  cases answers with
  | failed related =>
      exact ⟨rfl, .cons (.credentialFailed related) (.cons (.same _) .nil)⟩
  | given same =>
      subst same
      exact Logged.alike_rfl _

theorem attempt_alike (hosts : host.Alike like mirror) {candidate other : Candidate}
    (same : candidate.Alike like other) (quarantine : Quarantine) :
    (attempt host quarantine candidate).Alike like Eq (attempt mirror quarantine other) := by
  rw [attempt, attempt, judge_alike hosts same]
  apply (Logged.alike_rfl _).bind
  rintro ⟨usable, judged⟩ _ rfl
  cases usable with
  | false => exact Logged.alike_pure rfl
  | true =>
      obtain ⟨ordinal, entries⟩ := same
      apply (unlock_alike hosts entries).bind
      rintro passcode? _ rfl
      exact Logged.alike_pure rfl

def FoundAlike (like : Likeness) : Except LookupFault (Candidate × Passcode) →
    Except LookupFault (Candidate × Passcode) → Prop :=
  Matching Eq (SameReply (Candidate.Alike like))

theorem Alike.search (alike : selector.Alike like twin) (hosts : host.Alike like mirror)
    (lookups : Lookup.AlikeIn like selector.configPath selector.group host.files mirror.files)
    (tries : Nat) {first other : Except LookupFault Candidate}
    (firsts : Matching Eq (Candidate.Alike like) first other) (quarantine : Quarantine) :
    (selector.search host tries first quarantine).Alike like (SameReply (FoundAlike like))
      (twin.search mirror tries other quarantine) := by
  induction tries generalizing first other quarantine with
  | zero =>
      cases firsts with
      | failed related => exact Logged.alike_pure ⟨.failed related, rfl⟩
      | given same => exact Logged.alike_pure ⟨.failed rfl, rfl⟩
  | succ tries ih =>
      cases firsts with
      | failed related =>
          rw [search_error, search_error]
          exact Logged.alike_pure ⟨.failed related, rfl⟩
      | @given candidate other same =>
          rw [search_succ, search_succ]
          -- Both attempts come to the same, so both searches end here or both go on.
          apply (attempt_alike hosts same quarantine).bind
          rintro ⟨passcode?, judged⟩ _ rfl
          cases passcode? with
          | some passcode => exact Logged.alike_pure ⟨.given ⟨same, rfl⟩, rfl⟩
          | none =>
              have ordinal : candidate.ordinal = other.ordinal := by
                cases same
                rfl
              rw [ordinal]
              apply (alike.seek lookups _).bind
              intro next following related
              exact ih related judged

theorem Alike.begin (alike : selector.Alike like twin) {files others : FileTree}
    (lookups : Lookup.AlikeIn like selector.configPath selector.group files others) :
    (selector.begin files).Alike like (Matching Eq (Candidate.Alike like)) (twin.begin others) := by
  have sought := alike.seek lookups 0
  obtain ⟨configPath, group, engine?, quarantine, same⟩ := alike
  cases same with
  | fresh | exhausted | destroyed => exact sought
  | ready same | checkedOut same => exact Logged.alike_pure (.given same)

theorem Alike.checkOut (alike : selector.Alike like twin) (hosts : host.Alike like mirror)
    (lookups : Lookup.AlikeIn like selector.configPath selector.group host.files mirror.files) :
    (selector.checkOut host).Alike like (SameReply (Selector.Alike like))
      (twin.checkOut mirror) := by
  have ofSearch (idle : selector.Idle) (idleTwin : twin.Idle) :
      (selector.checkOut host).Alike like (SameReply (Selector.Alike like))
        (twin.checkOut mirror) := by
    rw [checkOut_of_idle idle, checkOut_of_idle idleTwin]
    apply (alike.begin lookups).bind
    intro first other firsts
    have searched := alike.search hosts lookups Limit.ordinals firsts selector.quarantine
    have given := alike.giveUp
    obtain ⟨configPath, group, engine?, quarantine, same⟩ := alike
    apply searched.bind
    rintro ⟨result, last⟩ ⟨found, _⟩ ⟨results, rfl⟩
    cases results with
    | failed related =>
        subst related
        rw [given]
        apply (Logged.alike_rfl _).bind
        rintro cause _ rfl
        exact Logged.alike_pure ⟨.mk _ _ _ _ .fresh, rfl⟩
    | @given found other related =>
        obtain ⟨candidate, passcode⟩ := found
        obtain ⟨counterpart, _⟩ := other
        obtain ⟨candidates, rfl⟩ := related
        have next := Alike.mk configPath group engine? last (.checkedOut candidates passcode)
        cases candidates with
        | mk ordinal entries =>
            cases entries
            exact (Logged.alike_pure ⟨next, rfl⟩).after _
  cases alike with
  | mk configPath group engine? quarantine same =>
      cases same with
      | fresh | ready =>
          exact ofSearch (idle_iff.mpr (.inl ⟨_, rfl⟩)) (idle_iff.mpr (.inl ⟨_, rfl⟩))
      | exhausted => exact ofSearch (idle_iff.mpr (.inr rfl)) (idle_iff.mpr (.inr rfl))
      | checkedOut same passcode =>
          exact (Logged.alike_pure ⟨.mk _ _ _ _ (.checkedOut same passcode), rfl⟩).after _
      | destroyed => exact (Logged.alike_pure ⟨.mk _ _ _ _ .destroyed, rfl⟩).after _

theorem Alike.succeed (alike : selector.Alike like twin) {files others : FileTree}
    (lookups : Lookup.AlikeIn like selector.configPath selector.group files others)
    {candidate other : Candidate} (same : candidate.Alike like other) :
    (selector.succeed files candidate).Alike like (SameReply (Selector.Alike like))
      (twin.succeed others other) := by
  have sought : ∀ quarantine, ({ selector with quarantine := quarantine }.seek files 0).Alike like
      (Matching Eq (Candidate.Alike like)) ({ twin with quarantine := quarantine }.seek others 0) :=
    fun quarantine => alike.seek lookups 0
  obtain ⟨configPath, group, engine?, quarantine, stages⟩ := alike
  obtain ⟨ordinal, entries⟩ := same
  by_cases first : ordinal = 0
  · rw [Selector.succeed, Selector.succeed, if_pos first, if_pos first]
    exact Logged.alike_pure ⟨.mk _ _ _ _ (.ready (.mk ordinal entries)), rfl⟩
  · rw [Selector.succeed, Selector.succeed, if_neg first, if_neg first]
    apply (sought _).bind
    intro found result results
    cases results with
    | failed related =>
        subst related
        exact (Logged.alike_pure ⟨.mk _ _ _ _ .exhausted, rfl⟩).after _
    | given related => exact Logged.alike_pure ⟨.mk _ _ _ _ (.ready related), rfl⟩

theorem Alike.reject (alike : selector.Alike like twin) (hosts : host.Alike like mirror)
    (lookups : Lookup.AlikeIn like selector.configPath selector.group host.files mirror.files)
    {candidate other : Candidate} (same : candidate.Alike like other) (code : Nat)
    (endpoint : String) :
    (selector.reject host.files candidate code endpoint).Alike like
      (SameReply (Selector.Alike like)) (twin.reject mirror.files other code endpoint) := by
  have sought : ∀ quarantine ordinal,
      ({ selector with quarantine := quarantine }.seek host.files ordinal).Alike like
        (Matching Eq (Candidate.Alike like))
        ({ twin with quarantine := quarantine }.seek mirror.files ordinal) :=
    fun quarantine ordinal => alike.seek lookups ordinal
  obtain ⟨configPath, group, engine?, quarantine, stages⟩ := alike
  obtain ⟨ordinal, entries⟩ := same
  cases entries
  rw [Selector.reject, Selector.reject, hosts.modified]
  apply Logged.Alike.after
  apply (sought _ _).bind
  intro found result results
  cases results with
  | @failed fault _ related =>
      subst related
      cases fault with
      | noEntry => exact (Logged.alike_pure ⟨.mk _ _ _ _ .exhausted, rfl⟩).after _
      | config cause =>
          exact ((Logged.alike_pure ⟨.mk _ _ _ _ .exhausted, rfl⟩).after _).after _
  | given related => exact Logged.alike_pure ⟨.mk _ _ _ _ (.ready related), rfl⟩

theorem Alike.report (alike : selector.Alike like twin) (hosts : host.Alike like mirror)
    (lookups : Lookup.AlikeIn like selector.configPath selector.group host.files mirror.files)
    (code : Nat) (endpoint : String) :
    (selector.report host.files code endpoint).Alike like (SameReply (Selector.Alike like))
      (twin.report mirror.files code endpoint) := by
  have onSuccess {candidate other : Candidate} (same : candidate.Alike like other) :=
    alike.succeed lookups same
  have onError {candidate other : Candidate} (same : candidate.Alike like other) :=
    alike.reject hosts lookups same code endpoint
  obtain ⟨configPath, group, engine?, quarantine, stages⟩ := alike
  cases stages with
  | fresh => exact (Logged.alike_pure ⟨.mk _ _ _ _ .fresh, rfl⟩).after _
  | ready same => exact (Logged.alike_pure ⟨.mk _ _ _ _ (.ready same), rfl⟩).after _
  | exhausted => exact (Logged.alike_pure ⟨.mk _ _ _ _ .exhausted, rfl⟩).after _
  | destroyed => exact (Logged.alike_pure ⟨.mk _ _ _ _ .destroyed, rfl⟩).after _
  | checkedOut same passcode =>
      simp only [Selector.report]
      cases Outcome.ofCode code with
      | success => exact onSuccess same
      | certificateError => exact onError same
      | other => exact (Logged.alike_pure ⟨.mk _ _ _ _ (.ready same), rfl⟩).after _

theorem Alike.destroy (alike : selector.Alike like twin) :
    selector.destroy.Alike like (Selector.Alike like) twin.destroy := by
  obtain ⟨configPath, group, engine?, quarantine, stages⟩ := alike
  cases stages with
  | destroyed => exact Logged.alike_pure (.mk _ _ _ _ .destroyed)
  | fresh | ready | checkedOut | exhausted =>
      exact (Logged.alike_pure (.mk _ _ _ _ .destroyed)).after _

theorem Alike.call (alike : selector.Alike like twin) (hosts : host.Alike like mirror)
    (lookups : Lookup.AlikeIn like selector.configPath selector.group host.files mirror.files)
    (made : Call) :
    (selector.call host made).Alike like (SameReply (Selector.Alike like))
      (twin.call mirror made) := by
  cases made with
  | checkOut =>
      apply (alike.checkOut hosts lookups).bind
      rintro ⟨next, result⟩ ⟨other, _⟩ ⟨same, rfl⟩
      exact Logged.alike_pure ⟨same, rfl⟩
  | report code endpoint =>
      apply (alike.report hosts lookups code endpoint).bind
      rintro ⟨next, decision⟩ ⟨other, _⟩ ⟨same, rfl⟩
      exact Logged.alike_pure ⟨same, rfl⟩
  | destroy =>
      apply alike.destroy.bind
      intro next other same
      exact Logged.alike_pure ⟨same, rfl⟩

structure StepAlike (like : Likeness) (configPath group : String) (step other : Host × Call) :
    Prop where
  call : step.2 = other.2
  host : step.1.Alike like other.1
  lookups : Lookup.AlikeIn like configPath group step.1.files other.1.files

theorem Alike.run {configPath group : String} {steps others : List (Host × Call)}
    (same : List.Forall₂ (StepAlike like configPath group) steps others)
    (alike : selector.Alike like twin) (path : selector.configPath = configPath)
    (tag : selector.group = group) :
    (selector.run steps).Alike like (SameReply (Selector.Alike like)) (twin.run others) := by
  induction same generalizing selector twin with
  | nil => exact Logged.alike_pure ⟨alike, rfl⟩
  | @cons step other rest others first _ ih =>
      obtain ⟨host, made⟩ := step
      obtain ⟨mirror, _⟩ := other
      obtain ⟨rfl, hosts, lookups⟩ := first
      have called := alike.call hosts (by rwa [path, tag]) made
      -- The lookups of the later steps are those of the same group, since calls do not change it.
      have identity := (call_turn selector host made).identity
      have later := ih called.value.1 (identity.1.trans path) (identity.2.trans tag)
      refine ⟨⟨later.value.1, ?_⟩, List.rel_append called.events ?_⟩
      · exact congrArg₂ List.cons called.value.2 later.value.2
      · exact List.rel_append later.events .nil

/-- The life of a selector, from the attempt to make it: what its calls reply, and what can be seen
of it after them. -/
def life (files : FileTree) (configPath propertiesPath group : String)
    (steps : List (Host × Call)) : Logged (Except Fault (List Reply × View × String)) := do
  match ← create files configPath propertiesPath group with
  | .error fault => pure (.error fault)
  | .ok selector => do
    let (last, replies) ← selector.run steps
    pure (.ok (replies, last.view, last.describe))

theorem create_alike {files others : FileTree} {configPath propertiesPath group : String}
    (lookups : Lookup.AlikeIn like configPath group files others)
    (engine : Engine.read files propertiesPath = Engine.read others propertiesPath) :
    (create files configPath propertiesPath group).Alike like
      (Matching Eq fun selector twin => selector.Alike like twin ∧
        selector.configPath = configPath ∧ selector.group = group)
      (create others configPath propertiesPath group) := by
  rw [create, create]
  generalize (Field.group.validate group _ >>= _ : Except Fault Unit) = checked
  cases checked with
  | error fault => exact Logged.alike_pure (.failed rfl)
  | ok _ =>
      have fresh : Alike like ⟨configPath, group, none, .empty, .ready none⟩
          ⟨configPath, group, none, .empty, .ready none⟩ := .mk _ _ _ _ .fresh
      apply (fresh.seek lookups 0).bind
      intro found result results
      cases results with
      | failed related =>
          subst related
          apply (Logged.alike_rfl _).bind
          rintro cause _ rfl
          exact Logged.alike_pure (.failed rfl)
      | given related =>
          simp only [engine]
          apply (Logged.alike_rfl _).bind
          rintro engine? _ rfl
          apply Logged.Alike.after
          exact Logged.alike_pure (.given ⟨.mk _ _ _ _ (.ready related), rfl, rfl⟩)

/-- Two lives in surroundings alike come to the same, and log the same but for how credentials
failed. -/
theorem life_alike {files others : FileTree} {configPath propertiesPath group : String}
    (lookups : Lookup.AlikeIn like configPath group files others)
    (engine : Engine.read files propertiesPath = Engine.read others propertiesPath)
    {steps twins : List (Host × Call)}
    (same : List.Forall₂ (StepAlike like configPath group) steps twins) :
    (life files configPath propertiesPath group steps).Alike like Eq
      (life others configPath propertiesPath group twins) := by
  apply (create_alike lookups engine).bind
  intro made other results
  cases results with
  | failed related =>
      subst related
      exact Logged.alike_pure rfl
  | given related =>
      obtain ⟨alike, path, tag⟩ := related
      apply (Alike.run same alike path tag).bind
      rintro ⟨last, replies⟩ ⟨twin, _⟩ ⟨lasts, rfl⟩
      apply Logged.alike_pure
      rw [lasts.view, lasts.describe]

end Selector

namespace Locator

variable {locator twin : Locator} {host mirror : Host}

theorem Alike.view (alike : locator.Alike like twin) : locator.view = twin.view := by
  cases alike with
  | idle => rfl
  | holding configPath engine? live same =>
      cases same
      rfl

theorem Alike.describe (alike : locator.Alike like twin) : locator.describe = twin.describe := by
  cases alike with
  | idle => rfl
  | holding configPath engine? live same =>
      obtain ⟨entries, passcode⟩ := same
      cases entries
      rfl

theorem Alike.seek (alike : locator.Alike like twin) {files others : FileTree}
    (lookups : Lookup.AlikeUnder like locator.configPath files others) (label : String) :
    (locator.seek files label).Alike like (Matching Eq (Entry.Alike like))
      (twin.seek others label) := by
  have path : locator.configPath = twin.configPath := by
    cases alike <;> rfl
  have found := lookups label
  rw [Locator.seek, Locator.seek, ← path]
  generalize Lookup.byLabel files locator.configPath label = entry at found
  generalize Lookup.byLabel others locator.configPath label = other at found
  cases found with
  | @failed fault _ related =>
      subst related
      cases fault <;> exact (Logged.alike_pure (.failed rfl)).after _
  | given same =>
      have entries := same
      cases same
      exact (Logged.alike_pure (.given entries)).after _

theorem openEntry_alike (hosts : host.Alike like mirror) (label : String) {entry other : Entry}
    (same : entry.Alike like other) :
    (openEntry host label entry).Alike like (Matching Eq (Located.Alike like))
      (openEntry mirror label other) := by
  have entries := same
  obtain ⟨name, uri, related⟩ := same
  have answers := hosts.answers related
  simp only [openEntry, hosts.modified, Entry.path]
  cases mirror.files.modified? (Entry.pathOfUri uri) with
  | none => exact (Logged.alike_pure (.failed rfl)).after _
  | some time =>
      simp only
      generalize host.credentials _ = answer at answers
      generalize mirror.credentials _ = reply at answers
      cases answers with
      | failed related =>
          exact ⟨.failed rfl, .cons (.credentialFailed related) .nil⟩
      | @given value _ same =>
          subst same
          simp only
          cases Passcode.ofValue? value with
          | none => exact Logged.alike_pure (.failed rfl)
          | some passcode => exact (Logged.alike_pure (.given (.mk entries passcode))).after _

theorem Alike.find (alike : locator.Alike like twin) (hosts : host.Alike like mirror)
    (lookups : Lookup.AlikeUnder like locator.configPath host.files mirror.files)
    (label : String) :
    (locator.find host label).Alike like (Matching Eq (Located.Alike like))
      (twin.find mirror label) := by
  rw [Locator.find, Locator.find]
  cases Field.label.validate label [Entry.fieldSeparator] with
  | error fault => exact Logged.alike_pure (.failed rfl)
  | ok _ =>
      apply (alike.seek lookups label).bind
      intro found result results
      cases results with
      | failed related => exact Logged.alike_pure (.failed related)
      | given same => exact openEntry_alike hosts label same

theorem Alike.locate (alike : locator.Alike like twin) (hosts : host.Alike like mirror)
    (lookups : Lookup.AlikeUnder like locator.configPath host.files mirror.files)
    (label : String) :
    (locator.locate host label).Alike like (SameReply (Locator.Alike like))
      (twin.locate mirror label) := by
  have found := alike.find hosts lookups label
  have live : locator.live = twin.live := by
    cases alike <;> rfl
  rw [Locator.locate, Locator.locate, ← live]
  cases locator.live with
  | false => exact Logged.alike_pure ⟨alike, rfl⟩
  | true =>
      apply found.bind
      intro result other results
      cases results with
      | failed related =>
          subst related
          cases alike with
          | idle | holding => exact Logged.alike_pure ⟨.idle .., rfl⟩
      | given same =>
          have held := same
          obtain ⟨entries, passcode⟩ := same
          cases entries
          cases alike with
          | idle | holding => exact Logged.alike_pure ⟨.holding _ _ _ held, rfl⟩

theorem Alike.call (alike : locator.Alike like twin) (hosts : host.Alike like mirror)
    (lookups : Lookup.AlikeUnder like locator.configPath host.files mirror.files) (made : Call) :
    (locator.call host made).Alike like (SameReply (Locator.Alike like))
      (twin.call mirror made) := by
  cases made with
  | locate label =>
      apply (alike.locate hosts lookups label).bind
      rintro ⟨next, result⟩ ⟨other, _⟩ ⟨same, rfl⟩
      exact Logged.alike_pure ⟨same, rfl⟩
  | destroy =>
      cases alike with
      | idle | holding => exact Logged.alike_pure ⟨.idle .., rfl⟩

theorem configPath_call (locator : Locator) (host : Host) (made : Call) :
    (locator.call host made).value.1.configPath = locator.configPath := by
  cases made with
  | destroy => rfl
  | locate label =>
      simp only [call, locate, Logged.value_bind]
      split
      · rfl
      · simp only [Logged.value_bind]
        cases (locator.find host label).value <;> rfl

structure StepAlike (like : Likeness) (configPath : String) (step other : Host × Call) : Prop where
  call : step.2 = other.2
  host : step.1.Alike like other.1
  lookups : Lookup.AlikeUnder like configPath step.1.files other.1.files

theorem Alike.run {configPath : String} {steps others : List (Host × Call)}
    (same : List.Forall₂ (StepAlike like configPath) steps others)
    (alike : locator.Alike like twin) (path : locator.configPath = configPath) :
    (locator.run steps).Alike like (SameReply (Locator.Alike like)) (twin.run others) := by
  induction same generalizing locator twin with
  | nil => exact Logged.alike_pure ⟨alike, rfl⟩
  | @cons step other rest others first _ ih =>
      obtain ⟨host, made⟩ := step
      obtain ⟨mirror, _⟩ := other
      obtain ⟨rfl, hosts, lookups⟩ := first
      have called := alike.call hosts (by rwa [path]) made
      have later := ih called.value.1 ((configPath_call locator host made).trans path)
      refine ⟨⟨later.value.1, ?_⟩, List.rel_append called.events ?_⟩
      · exact congrArg₂ List.cons called.value.2 later.value.2
      · exact List.rel_append later.events .nil

def life (files : FileTree) (configPath propertiesPath : String) (steps : List (Host × Call)) :
    Logged (Except Fault (List Reply × View × String)) := do
  match ← create files configPath propertiesPath with
  | .error fault => pure (.error fault)
  | .ok locator => do
    let (last, replies) ← locator.run steps
    pure (.ok (replies, last.view, last.describe))

theorem create_alike {files others : FileTree} {configPath propertiesPath : String}
    (present : files.isFile configPath = others.isFile configPath)
    (engine : Engine.read files propertiesPath = Engine.read others propertiesPath) :
    (create files configPath propertiesPath).Alike like
      (Matching Eq fun locator twin => locator.Alike like twin ∧ locator.configPath = configPath)
      (create others configPath propertiesPath) := by
  rw [create, create, present, engine]
  cases Field.configPath.validate configPath [] with
  | error fault => exact Logged.alike_pure (.failed rfl)
  | ok _ =>
      cases others.isFile configPath with
      | false => exact Logged.alike_pure (.failed rfl)
      | true =>
          apply (Logged.alike_rfl _).bind
          rintro engine? _ rfl
          exact (Logged.alike_pure (.given ⟨.idle .., rfl⟩)).after _

theorem life_alike {files others : FileTree} {configPath propertiesPath : String}
    (present : files.isFile configPath = others.isFile configPath)
    (engine : Engine.read files propertiesPath = Engine.read others propertiesPath)
    {steps twins : List (Host × Call)}
    (same : List.Forall₂ (StepAlike like configPath) steps twins) :
    (life files configPath propertiesPath steps).Alike like Eq
      (life others configPath propertiesPath twins) := by
  apply (create_alike present engine).bind
  intro made other results
  cases results with
  | failed related =>
      subst related
      exact Logged.alike_pure rfl
  | given related =>
      apply (Alike.run same related.1 related.2).bind
      rintro ⟨last, replies⟩ ⟨twin, _⟩ ⟨lasts, rfl⟩
      apply Logged.alike_pure
      rw [lasts.view, lasts.describe]

end Locator

end CertFailover
