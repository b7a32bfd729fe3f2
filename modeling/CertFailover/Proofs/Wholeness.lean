import CertFailover.Proofs.Agreement
import CertFailover.Proofs.Selection
import CertFailover.Proofs.Statelessness

/-!
Passcodes from files. A store on files reads one byte more than it admits, and a passcode is far
shorter than that, so that what is handed out is a whole file but for one newline at its end. A file
that is too long for that is as good as none.
-/

namespace CertFailover

theorem Passcode.Whole.length_le {value bytes : Bytes} (whole : Whole value bytes) :
    value.length ≤ bytes.length + 1 := by
  rcases whole with split | _
  · simp [split]
  · exact Nat.le_succ _

namespace CredentialFiles

theorem readBounded_eq_ok_iff {reference : String} {content value : Bytes} :
    readBounded reference content = .ok value ↔
      content.length ≤ Limit.credentialFile ∧ content = value := by
  rw [readBounded]
  by_cases fits : content.length ≤ Limit.credentialFile
  · have all : content.take (Limit.credentialFile + 1) = content :=
      List.take_of_length_le (Nat.le_succ_of_le fits)
    simp [all, fits, Nat.not_lt.mpr fits]
  · have beyond : (content.take (Limit.credentialFile + 1)).length = Limit.credentialFile + 1 := by
      rw [List.length_take]
      omega
    simp only [beyond, fits, Nat.lt_succ_self, if_true, reduceCtorEq, false_and]

theorem credentials_eq_ok_iff {store : CredentialFiles} {files : FileTree} {reference : String}
    {value : Bytes} :
    store.credentials files reference = .ok value ↔
      files.read (store.pathOf reference) = .ok value ∧
        value.length ≤ Limit.credentialFile := by
  rw [credentials]
  cases files.read (store.pathOf reference) with
  | error cause => cases cause <;> simp
  | ok content =>
      simp only [readBounded_eq_ok_iff, Except.ok.injEq]
      constructor
      · rintro ⟨fits, rfl⟩
        exact ⟨rfl, fits⟩
      · rintro ⟨rfl, fits⟩
        exact ⟨fits, rfl⟩

/-- The file that a reference names can be read, and without the newline at its end it is no longer
than a passcode may be. -/
def Provides (store : CredentialFiles) (files : FileTree) (reference : String) : Prop :=
  ∃ content bytes, files.read (store.pathOf reference) = .ok content ∧
    Passcode.Whole content bytes ∧ bytes.length ≤ Limit.passcode - 1

def host (store : CredentialFiles) (files : FileTree) : Host :=
  ⟨files, store.credentials files⟩

theorem service?_eq_some_iff {store : CredentialFiles} {files : FileTree} {entry : Entry}
    {passcode : Passcode} :
    Selector.service? (store.host files) entry = some passcode ↔
      (files.modified? entry.path).isSome ∧
        ∃ content, files.read (store.pathOf entry.credentialRef) = .ok content ∧
          Passcode.Whole content passcode.bytes := by
  rw [Selector.service?_eq_some_iff]
  simp only [host, credentials_eq_ok_iff]
  refine and_congr_right fun _ => ⟨?_, ?_⟩
  · rintro ⟨value, ⟨read, _⟩, whole⟩
    exact ⟨value, read, whole⟩
  · rintro ⟨content, read, whole⟩
    have bound := whole.length_le
    have short := passcode.short
    have room : Limit.passcode < Limit.credentialFile := by decide
    exact ⟨content, ⟨read, by omega⟩, whole⟩

theorem exists_service?_iff {store : CredentialFiles} {files : FileTree} {entry : Entry} :
    (∃ passcode, Selector.service? (store.host files) entry = some passcode) ↔
      (files.modified? entry.path).isSome ∧ store.Provides files entry.credentialRef := by
  simp only [service?_eq_some_iff]
  constructor
  · rintro ⟨passcode, present, content, read, whole⟩
    exact ⟨present, content, passcode.bytes, read, whole, Nat.le_pred_of_lt passcode.short⟩
  · rintro ⟨present, content, bytes, read, whole, short⟩
    exact ⟨⟨bytes, Nat.lt_of_le_pred (by decide) short⟩, present, content, read, whole⟩

end CredentialFiles

namespace Registers

variable {registers : Registers}

theorem meets_succ {files : FileTree} {ordinal : Nat} (lower : registers.index ≤ ordinal) :
    registers.meets files (ordinal + 1) =
      Lookup.inGroup files registers.configPath registers.group (ordinal + 1) := by
  rw [meets, if_neg (by omega)]

theorem Arrives.succ {host : Host} {ordinal : Nat} {entry : Entry}
    (here : registers.Arrives host ordinal)
    (met : registers.meets host.files ordinal = .ok entry)
    (useless : ¬Selector.Usable host registers.quarantine ⟨ordinal, entry⟩) :
    registers.Arrives host (ordinal + 1) := by
  refine ⟨Nat.le_succ_of_le here.upward, ?_⟩
  intro earlier lower upper
  rcases Nat.lt_succ_iff_lt_or_eq.mp upper with before | same
  · exact here.passed earlier lower before
  · subst same
    exact ⟨entry, met, useless⟩

end Registers

namespace Selector

variable {selector : Selector} {host : Host} {candidate : Candidate}

theorem mem_visited_succ (visit : candidate ∈ selector.visited host)
    (useless : ¬Usable host selector.quarantine candidate) {entry : Entry}
    (found : Lookup.inGroup host.files selector.configPath selector.group (candidate.ordinal + 1) =
      .ok entry) : ⟨candidate.ordinal + 1, entry⟩ ∈ selector.visited host := by
  have idle := idle_of_mem_visited visit
  obtain ⟨arrives, met⟩ := (mem_visited_iff idle).mp visit
  exact (mem_visited_iff idle).mpr
    ⟨arrives.succ met useless, (Registers.meets_succ arrives.upward).trans found⟩

theorem Idle.checkOut_missed (idle : selector.Idle) {ordinal : Nat} {fault : LookupFault}
    (there : selector.registers.Arrives host ordinal)
    (missed : selector.registers.meets host.files ordinal = .error fault) :
    (selector.checkOut host).value.2 = .error (selector.refusal fault) := by
  have decisive : ∀ entry, selector.registers.meets host.files ordinal = .ok entry →
      Usable host selector.registers.quarantine ⟨ordinal, entry⟩ := by
    intro entry met
    cases missed.symm.trans met
  have result : (selector.checkOut host).value.2 =
      (selector.registers.checkOut .standard host).value.2 := by
    rw [registers_checkOut, Logged.value_map]
    rfl
  rw [result]
  obtain ⟨stop, arrives, ⟨entry, _, met, usable, _, value⟩ | ⟨other, given, value⟩⟩ :=
    idle.stops .standard host
  · have same := there.unique arrives decisive fun other found => by
      cases met.symm.trans found
      exact usable
    subst same
    cases missed.symm.trans met
  · have same := there.unique arrives decisive fun entry found => by
      cases given.symm.trans found
    subst same
    cases missed.symm.trans given
    rw [value]

theorem checkOut_of_mem_visited_last (visit : candidate ∈ selector.visited host)
    (useless : ¬Usable host selector.quarantine candidate) {fault : LookupFault}
    (missed : Lookup.inGroup host.files selector.configPath selector.group
      (candidate.ordinal + 1) = .error fault) :
    (selector.checkOut host).value.2 = .error (selector.refusal fault) := by
  have idle := idle_of_mem_visited visit
  obtain ⟨arrives, met⟩ := (mem_visited_iff idle).mp visit
  exact idle.checkOut_missed (arrives.succ met useless)
    ((Registers.meets_succ arrives.upward).trans missed)

end Selector

theorem Locator.result_locate {locator : Locator} (live : locator.live = true) (host : Host)
    (label : String) :
    (locator.locate host label).value.2 =
      (locator.find host label).value.map fun located =>
        ⟨located.entry.uri, located.passcode⟩ := by
  rw [locate, live]
  simp only [Bool.not_true, Bool.false_eq_true, if_false, Logged.value_bind]
  cases (locator.find host label).value <;> rfl

namespace CredentialFiles

variable {store : CredentialFiles} {files : FileTree}

theorem not_provides_of_long {reference : String} {content bytes : Bytes}
    (read : files.read (store.pathOf reference) = .ok content)
    (whole : Passcode.Whole content bytes) (long : Limit.passcode ≤ bytes.length) :
    ¬store.Provides files reference := by
  rintro ⟨other, found, same, split, short⟩
  cases read.symm.trans same
  rw [split.unique whole] at short
  have room : 0 < Limit.passcode := by decide
  omega

theorem provides_of_usable {quarantine : Quarantine} {candidate : Candidate}
    (usable : Selector.Usable (store.host files) quarantine candidate) :
    store.Provides files candidate.entry.credentialRef := by
  have passable := Selector.usable_iff.mp usable
  rw [Selector.Passed, not_or] at passable
  exact (exists_service?_iff.mp (Option.ne_none_iff_exists'.mp passable.2)).2

theorem checkedOut_iff {selector : Selector} {candidate : Candidate} {time : Timestamp}
    (visit : candidate ∈ selector.visited (store.host files))
    (present : files.modified? candidate.entry.path = some time)
    (free : selector.quarantine.slot? candidate.ordinal ≠ some time) :
    let outcome := (selector.checkOut (store.host files)).value
    (∃ grant, outcome.2 = .ok grant ∧ outcome.1.candidate? = some candidate) ↔
      store.Provides files candidate.entry.credentialRef := by
  intro outcome
  constructor
  · rintro ⟨grant, granted, held⟩
    have turn := Selector.checkOut_turn selector (store.host files)
    rw [granted] at turn
    obtain ⟨other, same, _, served⟩ := turn.grant
    cases held.symm.trans same
    exact (exists_service?_iff.mp ⟨_, served⟩).2
  · intro provides
    have unbarred : ¬Selector.Barred (store.host files) selector.quarantine candidate := by
      rintro ⟨other, modified, slot⟩
      cases present.symm.trans modified
      exact free slot
    obtain ⟨passcode, served⟩ := exists_service?_iff.mpr ⟨by rw [present]; rfl, provides⟩
    obtain ⟨stage, granted⟩ := Selector.checkOut_of_mem_visited visit unbarred served
    exact ⟨_, granted, Selector.candidate?_of_checkedOut stage⟩

theorem located_iff {locator : Locator} {label : String} {entry : Entry}
    (live : locator.live = true)
    (valid : Field.label.validate label [Entry.fieldSeparator] = .ok ())
    (lookup : Lookup.byLabel files locator.configPath label = .ok entry)
    (present : (files.modified? entry.path).isSome) :
    (∃ grant, (locator.locate (store.host files) label).value.2 = .ok grant) ↔
      store.Provides files entry.credentialRef := by
  simp only [Locator.value_locate_eq_ok_iff]
  constructor
  · rintro ⟨grant, _, _, other, found, served, _⟩
    cases lookup.symm.trans found
    exact (exists_service?_iff.mp ⟨_, served⟩).2
  · intro provides
    obtain ⟨passcode, served⟩ := exists_service?_iff.mpr ⟨present, provides⟩
    exact ⟨⟨entry.uri, passcode⟩, live, valid, entry, lookup, served, rfl⟩

theorem locate_of_not_provides {locator : Locator} {label : String} {entry : Entry}
    (live : locator.live = true)
    (valid : Field.label.validate label [Entry.fieldSeparator] = .ok ())
    (lookup : Lookup.byLabel files locator.configPath label = .ok entry)
    (present : (files.modified? entry.path).isSome)
    (useless : ¬store.Provides files entry.credentialRef) :
    (locator.locate (store.host files) label).value.2 = .error (.credentialUnavailable label) := by
  have ungranted := mt (located_iff live valid lookup present).mp useless
  rw [Locator.result_locate live] at ungranted ⊢
  have sought := Locator.sought_find locator (store.host files) label
  generalize (locator.find (store.host files) label).value = outcome at sought ungranted
  cases sought with
  | refused invalid => cases valid.symm.trans invalid
  | unreadable _ missed => cases lookup.symm.trans missed
  | unknown _ missed => cases lookup.symm.trans missed
  | missing _ found absent =>
      cases lookup.symm.trans found
      simp [show files.modified? _ = none from absent] at present
  | unresolved | oversized => rfl
  | located => exact absurd ⟨_, rfl⟩ ungranted

/-- With credentials from files, a passcode is the whole of the file that the entry names but for one
newline at its end. A certificate that may be tried is handed out exactly if its credential is
provided so; if it is not, a selector goes on to the next ordinal and a locator says that the
credential is unavailable. -/
theorem handed_out_whole (store : CredentialFiles) (files : FileTree) :
    let host := store.host files
    (∀ (selector : Selector) (grant : Grant), (selector.checkOut host).value.2 = .ok grant →
      ∃ candidate content,
        (selector.checkOut host).value.1.candidate? = some candidate ∧
        grant.uri = candidate.entry.uri ∧
        files.read (store.pathOf candidate.entry.credentialRef) = .ok content ∧
        Passcode.Whole content grant.passcode.bytes) ∧
      (∀ (selector : Selector) (candidate : Candidate) (time : Timestamp),
        candidate ∈ selector.visited host →
        files.modified? candidate.entry.path = some time →
        selector.quarantine.slot? candidate.ordinal ≠ some time →
          ((∃ grant, (selector.checkOut host).value.2 = .ok grant ∧
              (selector.checkOut host).value.1.candidate? = some candidate) ↔
            store.Provides files candidate.entry.credentialRef)) ∧
      (∀ (selector : Selector) (candidate : Candidate), candidate ∈ selector.visited host →
        ¬store.Provides files candidate.entry.credentialRef →
          let following := Lookup.inGroup files selector.configPath selector.group
            (candidate.ordinal + 1)
          (∀ entry, following = .ok entry →
            ⟨candidate.ordinal + 1, entry⟩ ∈ selector.visited host) ∧
          ∀ fault, following = .error fault →
            (selector.checkOut host).value.2 = .error (selector.refusal fault)) ∧
      (∀ (locator : Locator) (label : String) (grant : Grant),
        (locator.locate host label).value.2 = .ok grant →
          ∃ entry content, Lookup.byLabel files locator.configPath label = .ok entry ∧
            grant.uri = entry.uri ∧
            files.read (store.pathOf entry.credentialRef) = .ok content ∧
            Passcode.Whole content grant.passcode.bytes) ∧
      (∀ (locator : Locator) (label : String) (entry : Entry), locator.live = true →
        Field.label.validate label [Entry.fieldSeparator] = .ok () →
        Lookup.byLabel files locator.configPath label = .ok entry →
        (files.modified? entry.path).isSome →
          ((∃ grant, (locator.locate host label).value.2 = .ok grant) ↔
            store.Provides files entry.credentialRef) ∧
          (¬store.Provides files entry.credentialRef →
            (locator.locate host label).value.2 = .error (.credentialUnavailable label))) ∧
      ∀ reference content bytes, files.read (store.pathOf reference) = .ok content →
        Passcode.Whole content bytes → Limit.passcode ≤ bytes.length →
          ¬store.Provides files reference := by
  intro host
  refine ⟨?_, fun _ _ _ => checkedOut_iff, ?_, ?_, ?_, fun _ _ _ => not_provides_of_long⟩
  · intro selector grant granted
    have turn := Selector.checkOut_turn selector host
    rw [granted] at turn
    obtain ⟨candidate, held, uri, served⟩ := turn.grant
    obtain ⟨_, content, read, whole⟩ := service?_eq_some_iff.mp served
    exact ⟨candidate, content, held, uri, read, whole⟩
  · intro selector candidate visit unprovided
    have useless : ¬Selector.Usable host selector.quarantine candidate :=
      fun usable => unprovided (provides_of_usable usable)
    exact ⟨fun _ => Selector.mem_visited_succ visit useless,
      fun _ => Selector.checkOut_of_mem_visited_last visit useless⟩
  · intro locator label grant granted
    obtain ⟨_, _, entry, lookup, served, uri⟩ := Locator.value_locate_eq_ok_iff.mp granted
    obtain ⟨_, content, read, whole⟩ := service?_eq_some_iff.mp served
    exact ⟨entry, content, lookup, uri, read, whole⟩
  · intro locator label entry live valid lookup present
    exact ⟨located_iff live valid lookup present, locate_of_not_provides live valid lookup present⟩

/-- The first credential is one byte longer than a store reads, and the second one is as long as a
passcode may be, with a newline. -/
def credentialTree : FileTree :=
  let letters (count : Nat) : Bytes := List.replicate count 120
  (Selector.sampleFiles.write "keys/pc" (letters (Limit.credentialFile + 2)) .epoch).write "keys/pd"
    (letters (Limit.passcode - 1) ++ [Passcode.newline]) .epoch

theorem handed_out_whole_sample :
    let store : CredentialFiles := ⟨some "keys"⟩
    let host := store.host credentialTree
    let locator : Locator := ⟨"c.cfg", none, true, none⟩
    let letters : Bytes := List.replicate (Limit.passcode - 1) 120
    ¬store.Provides credentialTree "pc" ∧ store.Provides credentialTree "pd" ∧
      ⟨0, "L", "a.p12", "pc"⟩ ∈ Selector.sample.visited host ∧
      ⟨1, "M", "b.p12", "pd"⟩ ∈ Selector.sample.visited host ∧
      (∃ grant, (Selector.sample.checkOut host).value.2 = .ok grant ∧ grant.uri = "b.p12" ∧
        grant.passcode.bytes = letters) ∧
      (∃ grant, (locator.locate host "M").value.2 = .ok grant) ∧
      (locator.locate host "L").value.2 = .error (.credentialUnavailable "L") := by
  intro store host locator letters
  have surplus : credentialTree.read "keys/pc" =
      .ok (List.replicate (Limit.credentialFile + 2) 120) := by rfl
  have stored : credentialTree.read "keys/pd" = .ok (letters ++ [Passcode.newline]) := by rfl
  have second : Lookup.inGroup credentialTree "c.cfg" "G" 1 = .ok ⟨"M", "b.p12", "pd"⟩ := by rfl
  have here : credentialTree.modified? "b.p12" = some .epoch := by rfl
  have labelled : Lookup.byLabel credentialTree "c.cfg" "L" = .ok ⟨"L", "a.p12", "pc"⟩ := by rfl
  have other : Lookup.byLabel credentialTree "c.cfg" "M" = .ok ⟨"M", "b.p12", "pd"⟩ := by
    decide +kernel
  obtain ⟨whole, accepted, skipped, _, located, short⟩ := handed_out_whole store credentialTree
  have missing : ¬store.Provides credentialTree "pc" :=
    short "pc" _ _ surplus (.plain (by rw [List.getLast?_replicate]; decide))
      (by rw [List.length_replicate]; decide)
  have provided : store.Provides credentialTree "pd" :=
    ⟨_, letters, stored, .ended rfl, by simp [letters]⟩
  have first : ⟨0, "L", "a.p12", "pc"⟩ ∈ Selector.sample.visited host :=
    Selector.mem_visited_of_held (.inl rfl) rfl host
  have next := (skipped Selector.sample _ first missing).1 _ second
  obtain ⟨grant, granted, held⟩ :=
    (accepted Selector.sample _ .epoch next here (by decide)).mpr provided
  obtain ⟨candidate, content, same, uri, read, bytes⟩ := whole Selector.sample grant granted
  cases held.symm.trans same
  cases stored.symm.trans read
  refine ⟨missing, provided, first, next, ⟨grant, granted, uri, ?_⟩, ?_, ?_⟩
  · exact bytes.unique (.ended rfl)
  · exact (located locator "M" _ rfl (by rfl) other (by rfl)).1.mpr provided
  · exact (located locator "L" _ rfl (by rfl) labelled (by rfl)).2 missing

end CredentialFiles

end CertFailover
