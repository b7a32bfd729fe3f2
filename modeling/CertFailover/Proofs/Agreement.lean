import CertFailover.Locator.Run
import CertFailover.Proofs.Restoration
import CertFailover.Proofs.Scans
import CertFailover.Proofs.Skips

/-!
Agreement of selectors and locators. Both read a line of the configuration in the same way and come
by its certificate on the same conditions, so that where one line is the first of its group and the
first with its label, they hand out the same.
-/

namespace CertFailover

namespace Locator

theorem create_eq_ok {files : FileTree} {configPath propertiesPath : String} {locator : Locator}
    (created : (create files configPath propertiesPath).value = .ok locator) :
    locator.live = true ∧ locator.configPath = configPath ∧
      Field.configPath.validate configPath [] = .ok () ∧ files.isFile configPath = true := by
  rw [create] at created
  cases valid : Field.configPath.validate configPath [] with
  | error fault =>
      rw [valid] at created
      cases created
  | ok _ =>
      simp only [valid] at created
      cases present : files.isFile configPath with
      | false =>
          rw [present] at created
          cases created
      | true =>
          rw [present] at created
          cases created
          exact ⟨rfl, rfl, rfl, rfl⟩

theorem value_openEntry_eq_ok_iff {host : Host} {label : String} {entry : Entry}
    {located : Located} :
    (openEntry host label entry).value = .ok located ↔
      located.entry = entry ∧ Selector.service? host entry = some located.passcode := by
  obtain ⟨held, passcode⟩ := located
  rw [Selector.service?, Selector.value_unlock, openEntry]
  cases host.files.modified? entry.path with
  | none => simp
  | some time =>
      cases host.credentials entry.credentialRef with
      | error fault => simp [Except.toOption]
      | ok value =>
          cases filled : Passcode.ofValue? value with
          | none => simp [Except.toOption, filled]
          | some found => simp [Except.toOption, filled, eq_comm]

theorem value_seek_eq_ok_iff {locator : Locator} {files : FileTree} {label : String}
    {entry : Entry} :
    (locator.seek files label).value = .ok entry ↔
      Lookup.byLabel files locator.configPath label = .ok entry := by
  rw [seek]
  cases Lookup.byLabel files locator.configPath label with
  | ok found => simp
  | error fault => cases fault <;> simp

theorem value_find_eq_ok_iff {locator : Locator} {host : Host} {label : String}
    {located : Located} :
    (locator.find host label).value = .ok located ↔
      Field.label.validate label [Entry.fieldSeparator] = .ok () ∧
        Lookup.byLabel host.files locator.configPath label = .ok located.entry ∧
        Selector.service? host located.entry = some located.passcode := by
  rw [find]
  cases Field.label.validate label [Entry.fieldSeparator] with
  | error fault => simp
  | ok _ =>
      simp only [Logged.value_bind, true_and]
      rw [← value_seek_eq_ok_iff]
      cases (locator.seek host.files label).value with
      | error fault => simp
      | ok entry =>
          simp only [value_openEntry_eq_ok_iff, Except.ok.injEq]
          constructor
          · rintro ⟨rfl, served⟩
            exact ⟨rfl, served⟩
          · rintro ⟨rfl, served⟩
            exact ⟨rfl, served⟩

theorem value_locate_eq_ok_iff {locator : Locator} {host : Host} {label : String}
    {grant : Grant} :
    (locator.locate host label).value.2 = .ok grant ↔
      locator.live = true ∧ Field.label.validate label [Entry.fieldSeparator] = .ok () ∧
        ∃ entry, Lookup.byLabel host.files locator.configPath label = .ok entry ∧
          Selector.service? host entry = some grant.passcode ∧ grant.uri = entry.uri := by
  obtain ⟨uri, passcode⟩ := grant
  have found (entry : Entry) := @value_find_eq_ok_iff locator host label ⟨entry, passcode⟩
  rw [locate]
  cases locator.live with
  | false => simp
  | true =>
      simp only [Bool.not_true, Bool.false_eq_true, if_false, Logged.value_bind, true_and]
      cases given : (locator.find host label).value with
      | error fault =>
          simp only [given, reduceCtorEq, false_iff] at found
          simp only [Logged.value_pure, reduceCtorEq, false_iff]
          rintro ⟨valid, entry, lookup, served, _⟩
          exact found entry ⟨valid, lookup, served⟩
      | ok located =>
          obtain ⟨held, code⟩ := located
          simp only [given, Except.ok.injEq, Located.mk.injEq] at found
          simp only [Logged.value_pure, Except.ok.injEq, Grant.mk.injEq]
          constructor
          · rintro ⟨rfl, same⟩
            obtain ⟨valid, lookup, served⟩ := (found held).mp ⟨rfl, same⟩
            exact ⟨valid, held, lookup, served, rfl⟩
          · rintro ⟨valid, entry, lookup, served, rfl⟩
            obtain ⟨rfl, same⟩ := (found entry).mpr ⟨valid, lookup, served⟩
            exact ⟨rfl, same⟩

theorem live_run {locator : Locator} (live : locator.live = true) {steps : List (Host × Call)}
    (kept : .destroy ∉ steps.map Prod.snd) :
    (locator.run steps).value.1.live = true ∧
      (locator.run steps).value.1.configPath = locator.configPath := by
  induction steps generalizing locator with
  | nil => exact ⟨live, rfl⟩
  | cons step rest ih =>
      obtain ⟨host, made⟩ := step
      rw [List.map_cons, List.mem_cons, not_or] at kept
      cases made with
      | destroy => exact absurd rfl kept.1
      | locate label =>
          have same : (locator.locate host label).value.1.live = locator.live ∧
              (locator.locate host label).value.1.configPath = locator.configPath := by
            rw [locate, live]
            simp only [Bool.not_true, Bool.false_eq_true, if_false, Logged.value_bind]
            cases (locator.find host label).value <;> exact ⟨rfl, rfl⟩
          obtain ⟨stillLive, path⟩ := ih (same.1.trans live) kept.2
          exact ⟨stillLive, path.trans same.2⟩

end Locator

namespace Selector

theorem Turn.grant {selector next : Selector} {host : Host} {grant : Grant}
    (turn : Turn selector host .checkOut next (.granted grant)) :
    ∃ candidate, next.candidate? = some candidate ∧ grant.uri = candidate.entry.uri ∧
      service? host candidate.entry = some grant.passcode := by
  generalize given : Reply.granted grant = reply at turn
  cases turn with
  | @granted candidate passcode last idle searched =>
      cases given
      exact ⟨candidate, rfl, rfl, searched.served⟩
  | failed idle searched => cases given
  | checkOutHeld held => cases given
  | checkOutReleased released => cases given

theorem Made.granted {host : Host} {selector : Selector} (made : Made host.files selector)
    {grant : Grant} (granted : (selector.checkOut host).value.2 = .ok grant) :
    ∃ candidate, (selector.checkOut host).value.1.candidate? = some candidate ∧
      Lookup.inGroup host.files selector.configPath selector.group candidate.ordinal =
        .ok candidate.entry ∧
      grant.uri = candidate.entry.uri ∧ service? host candidate.entry = some grant.passcode := by
  have turn := checkOut_turn selector host
  rw [granted] at turn
  obtain ⟨candidate, held, uri, served⟩ := turn.grant
  obtain ⟨seen, member, found⟩ := made.origin_run [(host, .checkOut)] held
  have same : seen = host.files := by simpa using member
  rw [same] at found
  exact ⟨candidate, held, (entryAt_eq_ok_iff.mp found).2, uri, served⟩

theorem mem_visited_of_held {selector : Selector} (idle : selector.Idle) {candidate : Candidate}
    (held : selector.candidate? = some candidate) (host : Host) :
    candidate ∈ selector.visited host := by
  rw [visited_of_idle idle, value_begin, held, Option.elim_some, visits]
  exact List.mem_cons_self

theorem create_checkOut {host : Host} {configPath group : String} {entry : Entry}
    {passcode : Passcode} (admitted : Admitted configPath group)
    (found : Lookup.inGroup host.files configPath group 0 = .ok entry)
    (served : service? host entry = some passcode) (propertiesPath : String) :
    ∃ selector, (create host.files configPath propertiesPath group).value = .ok selector ∧
      (selector.checkOut host).value.2 = .ok ⟨entry.uri, passcode⟩ := by
  have created := value_create_of_admitted admitted host.files propertiesPath
  rw [found] at created
  refine ⟨_, created, ?_⟩
  have visit := mem_visited_of_held (Made.create created).idle (by rfl) host
  refine (checkOut_of_mem_visited visit ?_ served).2
  simp [Barred]

end Selector

theorem Lookup.lines_of_isFile {files : FileTree} {path : String} (present : files.isFile path) :
    ∃ content, lines files path = .ok content := by
  rw [FileTree.isFile] at present
  rw [lines]
  cases found : files.find path with
  | error cause =>
      rw [found] at present
      cases present
  | ok node =>
      cases node with
      | file content modified => exact ⟨_, rfl⟩
      | directory modified =>
          rw [found] at present
          cases present

/-- As long as the files and the credential store stay, a selector and a locator over them agree. The
certificate that a new selector hands out first is that of a line of its group, and if the line is the
first one with its label and the label can be asked for, the locator hands out the same under it. The
certificate that the locator hands out under a label is that of the first line with it, and a selector
for any group in order of which this is the first line can be made and hands out the same. -/
theorem handouts_agree {host : Host} {configPath propertiesPath : String} {locator : Locator}
    (created : (Locator.create host.files configPath propertiesPath).value = .ok locator)
    {past : List Locator.Call} (kept : .destroy ∉ past) :
    let current := (locator.run (past.map (host, ·))).value.1
    ∃ lines, Lookup.lines host.files configPath = .ok lines ∧
      (∀ selector grant, Selector.Made host.files selector → selector.configPath = configPath →
        (selector.checkOut host).value.2 = .ok grant →
          ∃ candidate line,
            (selector.checkOut host).value.1.candidate? = some candidate ∧
            (lines.filter (Line.serves selector.group))[candidate.ordinal]? = some line ∧
            line.entry = .ok candidate.entry ∧
            (Field.label.validate candidate.entry.label [Entry.fieldSeparator] = .ok () →
              lines.find? (Line.labelled candidate.entry.label) = some line →
                (current.locate host candidate.entry.label).value.2 = .ok grant)) ∧
      ∀ label grant, (current.locate host label).value.2 = .ok grant →
        ∃ line entry, lines.find? (Line.labelled label) = some line ∧ line.entry = .ok entry ∧
          grant.uri = entry.uri ∧
          ∀ group propertiesPath,
            Field.group.validate group [Entry.fieldSeparator, Entry.tagSeparator] = .ok () →
              lines.find? (Line.serves group) = some line →
                ∃ selector,
                  (Selector.create host.files configPath propertiesPath group).value =
                      .ok selector ∧
                    (selector.checkOut host).value.2 = .ok grant := by
  intro current
  obtain ⟨live, rfl, valid, present⟩ := Locator.create_eq_ok created
  obtain ⟨lines, read⟩ := Lookup.lines_of_isFile present
  have state : current.live = true ∧ current.configPath = locator.configPath :=
    Locator.live_run live (by simpa [Function.comp_def] using kept)
  refine ⟨lines, read, ?_, ?_⟩
  · intro selector grant made path granted
    obtain ⟨candidate, held, found, uri, served⟩ := made.granted granted
    rw [path, Lookup.inGroup_eq_ok_iff] at found
    obtain ⟨_, content, line, again, nth, parsed⟩ := found
    rw [read] at again
    cases again
    refine ⟨candidate, line, held, Lookup.filter_of_seen nth, parsed, fun allowed first => ?_⟩
    have seen : line ∈ Lookup.seen lines := (List.mem_filter.mp (List.mem_of_getElem? nth)).1
    have named : Lookup.byLabel host.files current.configPath candidate.entry.label =
        .ok candidate.entry := by
      rw [state.2]
      exact Lookup.byLabel_eq_ok_iff.mpr ⟨lines, line, read, Lookup.find?_seen seen first, parsed⟩
    exact Locator.value_locate_eq_ok_iff.mpr
      ⟨state.1, allowed, candidate.entry, named, served, uri⟩
  · intro label grant located
    obtain ⟨_, allowed, entry, named, served, uri⟩ := Locator.value_locate_eq_ok_iff.mp located
    rw [state.2, Lookup.byLabel_eq_ok_iff] at named
    obtain ⟨content, line, again, first, parsed⟩ := named
    rw [read] at again
    cases again
    refine ⟨line, entry, Lookup.find?_of_seen first, parsed, uri, ?_⟩
    intro group propertiesPath accepted leading
    have seen : line ∈ Lookup.seen lines := List.mem_of_find?_eq_some first
    have head : ((Lookup.seen lines).filter (Line.serves group))[0]? = some line := by
      rw [← List.head?_eq_getElem?, List.head?_filter]
      exact Lookup.find?_seen seen leading
    have found : Lookup.inGroup host.files locator.configPath group 0 = .ok entry :=
      Lookup.inGroup_eq_ok_iff.mpr ⟨by decide, lines, line, read, head, parsed⟩
    obtain ⟨uri', passcode⟩ := grant
    cases uri
    exact Selector.create_checkOut ⟨accepted, valid⟩ found served propertiesPath

/-- The first line of the group has no certificate file, and the second one leads another group. -/
def sharedFiles : FileTree :=
  let conf := Bytes.ofText "G,L,P12,a.p12,pc\nG|H,M,P12,b.p12,pd\n"
  (FileTree.empty.write "c.cfg" conf .epoch).write "b.p12" [] .epoch

theorem handouts_agree_sample :
    let host : Host := ⟨sharedFiles, fun reference => .ok (Bytes.ofText reference)⟩
    let locator : Locator := ⟨"c.cfg", none, true, none⟩
    let grant : Grant := ⟨"b.p12", Bytes.ofText "pd", by decide⟩
    (Locator.create sharedFiles "c.cfg" "hrot.properties").value = .ok locator ∧
      (∃ selector, (Selector.create sharedFiles "c.cfg" "hrot.properties" "G").value =
          .ok selector ∧ (selector.checkOut host).value.2 = .ok grant) ∧
      (locator.locate host "M").value.2 = .ok grant ∧
      ∃ selector, (Selector.create sharedFiles "c.cfg" "hrot.properties" "H").value =
          .ok selector ∧ (selector.checkOut host).value.2 = .ok grant := by
  intro host locator grant
  have created : (Locator.create sharedFiles "c.cfg" "hrot.properties").value = .ok locator := by
    rfl
  have selector : (Selector.create sharedFiles "c.cfg" "hrot.properties" "G").value =
      .ok ⟨"c.cfg", "G", none, .empty, .ready (some ⟨0, ⟨"L", "a.p12", "pc"⟩⟩)⟩ := by rfl
  obtain ⟨lines, read, alike, back⟩ := @handouts_agree host _ _ _ created [] (by simp)
  have content : Lookup.lines sharedFiles "c.cfg" =
      .ok [⟨1, .text "G,L,P12,a.p12,pc"⟩, ⟨2, .text "G|H,M,P12,b.p12,pd"⟩] := by rfl
  cases content.symm.trans read
  obtain ⟨candidate, line, held, nth, _, located⟩ :=
    alike _ grant (.create selector) rfl (by rfl)
  cases held
  cases nth
  have found := located (by rfl) (by rfl)
  obtain ⟨first, entry, leads, _, _, given⟩ := back "M" grant found
  cases leads
  exact ⟨created, ⟨_, selector, by rfl⟩, found, given "H" "hrot.properties" (by rfl) (by rfl)⟩

end CertFailover
