import PromptGateway.Proofs.Reopening
import PromptGateway.Proofs.Text.Blank
import PromptGateway.Proofs.Text.Pattern

/-! # Paths as addresses

A path that looks like no other address is the address of a file, and so it is behind each of the
two marks for files. What names the file ends before the first question mark, whether there is a
mark or not, so a path names itself exactly if it has no question mark. What is opened is the file
at the place to which the name leads, unless it begins with the scheme of an address itself.
-/

namespace PromptGateway.Database

def fileMarks : List String := ["sqlite:", "sqlite://"]

def serverMarks : List String := ["postgres://", "postgresql://"]

/-- A path that begins with no mark of an address, and neither begins nor ends with a blank. -/
structure Bare (path : String) : Prop where
  trimmed : Text.trim path = path
  unmarked : ∀ mark ∈ fileMarks ++ serverMarks, ¬ mark.toList <+: path.toList
  lasting : path ≠ ":memory:"

def beforeQuery (path : String) : String := String.ofList (path.toList.takeWhile (· != '?'))

/-- What a name leads to that is not that of a server. -/
def Target.named (name : String) : Target := if name = ":memory:" then .memory else .file name

/-- Where a registry is kept that has been opened at a site. -/
def Site.store (d : Disk) : Site → Store
  | passing => .passing
  | path text => .file (d.placeOf (Path.read text))

variable {path other mark : String} {text : List Char}

theorem beforeQuery_eq_self_iff : beforeQuery path = path ↔ '?' ∉ path.toList := by
  rw [beforeQuery, ← String.toList_inj, String.toList_ofList, List.takeWhile_eq_self_iff]
  constructor
  · intro h hm
    simpa using h _ hm
  · intro h c hc
    simpa using ne_of_mem_of_not_mem hc h

theorem Target.named_inj {name name' : String} : named name = named name' ↔ name = name' := by
  refine ⟨fun h => ?_, congrArg named⟩
  unfold named at h
  split at h <;> split at h
  · rename_i hn hn'
    exact hn.trans hn'.symm
  · cases h
  · cases h
  · exact Target.file.inj h

theorem without_eq_none_iff : without mark text = none ↔ ¬ mark.toList <+: text :=
  Text.after?_eq_none_iff

theorem without_append (mark : String) (text : List Char) :
    without mark (mark.toList ++ text) = some text :=
  Text.after?_eq_some_iff.mpr rfl

/-! ## The part that names the file -/

theorem pathOf_of_unmarked (h : ∀ mark ∈ fileMarks, ¬ mark.toList <+: text) :
    pathOf text = text.takeWhile (· != '?') := by
  rw [pathOf, without_eq_none_iff.mpr (h "sqlite://" (by decide)),
    without_eq_none_iff.mpr (h "sqlite:" (by decide))]
  rfl

theorem pathOf_append_slashes (text : List Char) :
    pathOf ("sqlite://".toList ++ text) = text.takeWhile (· != '?') := by
  rw [pathOf, without_append]
  rfl

/-- The shorter mark is only taken for itself if no slashes follow. -/
theorem pathOf_append (h : ¬ "//".toList <+: text) :
    pathOf ("sqlite:".toList ++ text) = text.takeWhile (· != '?') := by
  have hs : ¬ "sqlite://".toList <+: "sqlite:".toList ++ text := fun hp =>
    h ((List.prefix_append_right_inj "sqlite:".toList).mp hp)
  rw [pathOf, without_append, without_eq_none_iff.mpr hs]
  rfl

/-! ## Reading -/

/-- An address on no server leads to what it names behind its mark. -/
theorem Target.read_eq_named {address : String} (ht : Text.trim address = address)
    (hs : ∀ mark ∈ serverMarks, ¬ mark.toList <+: address.toList) :
    Target.read address = named (String.ofList (pathOf address.toList)) := by
  have hn (mark : String) (hm : mark ∈ serverMarks) : without mark address.toList = none :=
    without_eq_none_iff.mpr (hs mark hm)
  rw [Target.read]
  simp only [Text.trim_eq_self_iff.mp ht, hn "postgres://" (by decide),
    hn "postgresql://" (by decide)]
  rfl

/-- No address begins with a mark for files and with one for servers. -/
theorem not_prefix_append (hm : mark ∈ fileMarks) {server : String} (hs : server ∈ serverMarks)
    (text : List Char) : ¬ server.toList <+: mark.toList ++ text := by
  have hne : ∀ mark ∈ fileMarks, ∀ server ∈ serverMarks,
      ¬ server.toList <+: mark.toList ∧ ¬ mark.toList <+: server.toList := by decide
  intro hp
  rcases List.prefix_or_prefix_of_prefix hp (List.prefix_append mark.toList text) with h | h
  · exact (hne mark hm server hs).1 h
  · exact (hne mark hm server hs).2 h

/-! ## Opening -/

section Opening

variable {d : Disk} {s : Store} {name : String}

/-- A name without the scheme of an address stands for a file of this name. -/
theorem Site.read_eq_path (hn : name ≠ "") (hm : name ≠ ":memory:")
    (hf : ¬ "file:".toList <+: name.toList) : Site.read name = .ok (.path name) := by
  rw [Site.read, without_eq_none_iff.mpr hf]
  exact congrArg Except.ok (if_neg (by simp [hn, hm]))

theorem store_of_openSite (h : (openSite d name).1 = .ok s) :
    ∃ site, Site.read name = .ok site ∧ s = site.store d := by
  unfold openSite at h
  split at h
  · cases h
  split at h
  · cases h
  · rename_i hs
    exact ⟨_, hs, (Except.ok.inj h).symm⟩
  · rename_i text hs
    have ho : openPlace d (d.placeOf (Path.read text)) = (.ok s, _) := Prod.ext h rfl
    exact ⟨_, hs, (of_openPlace ho).1⟩

/-- The directories that are made on the way to a file do not change the place of the file. -/
theorem store_of_openFile (h : (openFile d name).1 = .ok s) :
    ∃ site, Site.read name = .ok site ∧ s = site.store d := by
  unfold openFile at h
  dsimp only at h
  split at h
  · cases h
  split at h
  · cases h
  rename_i e he
  obtain ⟨site, hr, rfl⟩ := store_of_openSite h
  refine ⟨site, hr, ?_⟩
  cases site with
  | passing => rfl
  | path text => rw [Site.store, Site.store, (Disk.leads_of_ensurePath he).1.placeOf_eq]

theorem store_of_openAddress {address : String} (ha : Target.read address = .named name)
    (h : (openAddress d address).outcome = .ok s) :
    ∃ site, Site.read name = .ok site ∧ s = site.store d := by
  unfold Target.named at ha
  split at ha
  · rename_i hn
    subst hn
    rw [openAddress, ha] at h
    exact ⟨.passing, rfl, (Except.ok.inj h).symm⟩
  · exact store_of_openFile ((openAddress_file ha d).1.symm.trans h)

end Opening

namespace Bare

theorem read_eq (h : Bare path) : Target.read path = .named (beforeQuery path) := by
  rw [Target.read_eq_named h.trimmed fun mark hm => h.unmarked mark (List.mem_append_right _ hm),
    pathOf_of_unmarked fun mark hm => h.unmarked mark (List.mem_append_left _ hm), beforeQuery]

/-- Behind a mark for files a path leads to what it leads to by itself. -/
theorem read_append (h : Bare path) (hm : mark ∈ fileMarks)
    (hp : pathOf (mark.toList ++ path.toList) = path.toList.takeWhile (· != '?')) :
    Target.read (mark ++ path) = Target.read path := by
  have hb : ∀ mark ∈ fileMarks, ∀ c ∈ mark.toList, Text.isBlank c = false := by
    simp [fileMarks, Text.isBlank]
  have ht : Text.trim (mark ++ path) = mark ++ path := by
    rw [Text.trim_eq_self_iff, String.toList_append]
    exact Text.trimChars_append (hb mark hm) (Text.trim_eq_self_iff.mp h.trimmed)
  have hs : ∀ server ∈ serverMarks, ¬ server.toList <+: (mark ++ path).toList := by
    intro server hs
    rw [String.toList_append]
    exact not_prefix_append hm hs path.toList
  rw [Target.read_eq_named ht hs, String.toList_append, hp, h.read_eq, beforeQuery]

theorem read_eq_file_iff (h : Bare path) : Target.read path = .file path ↔ '?' ∉ path.toList := by
  have hf : Target.named path = .file path := if_neg h.lasting
  rw [h.read_eq, ← hf, Target.named_inj, beforeQuery_eq_self_iff]

/--
A path leads to the file of its own name exactly if it has no question mark. What is opened is what
stands before its first question mark; a path without one that is not empty stands for itself there,
unless it begins with the scheme `file`, and is an address. Two paths lead to the same exactly if
they agree up to their first question marks, and a mark for files in front of a path changes
nothing, unless slashes after the shorter one make it longer.
-/
theorem names_itself (h : Bare path) :
    (Target.read path = .file path ↔ '?' ∉ path.toList) ∧
      (∀ (d : Disk) (store : Store), (openAddress d path).outcome = .ok store →
        ∃ site, Site.read (beforeQuery path) = .ok site ∧ store = site.store d) ∧
      ('?' ∉ path.toList → path ≠ "" → ¬ "file:".toList <+: path.toList →
        Site.read (beforeQuery path) = .ok (.path path)) ∧
      (∀ other, Bare other →
        (Target.read other = Target.read path ↔ beforeQuery other = beforeQuery path)) ∧
      Target.read ("sqlite://" ++ path) = Target.read path ∧
      (¬ "//".toList <+: path.toList → Target.read ("sqlite:" ++ path) = Target.read path) := by
  refine ⟨h.read_eq_file_iff, fun d store => store_of_openAddress h.read_eq,
    fun hq hn hf => ?_, fun other ho => ?_, ?_, fun hs => ?_⟩
  · rw [beforeQuery_eq_self_iff.mpr hq]
    exact Site.read_eq_path hn h.lasting hf
  · rw [ho.read_eq, h.read_eq, Target.named_inj]
  · exact h.read_append (by decide) (pathOf_append_slashes path.toList)
  · exact h.read_append (by decide) (pathOf_append hs)

theorem names_itself_absolute : Bare "/data/aigw.db" ∧
    Target.read "/data/aigw.db" = .file "/data/aigw.db" ∧
    Target.read "sqlite:/data/aigw.db" = .file "/data/aigw.db" ∧
    Target.read "sqlite:///data/aigw.db" = .file "/data/aigw.db" ∧
    ∀ (d : Disk) (store : Store), (openAddress d "/data/aigw.db").outcome = .ok store →
      store = .file ["data", "aigw.db"] := by
  have h : Bare "/data/aigw.db" := ⟨by decide, by decide, by decide⟩
  obtain ⟨hf, ho, hp, -, hl, hs⟩ := names_itself h
  have hf := hf.mpr (by decide)
  refine ⟨h, hf, (hs (by decide)).trans hf, hl.trans hf, fun d store hd => ?_⟩
  obtain ⟨site, hr, rfl⟩ := ho d store hd
  cases hr.symm.trans (hp (by decide) (by decide) (by decide))
  have hd : Path.read "/data/aigw.db" = ⟨true, ["data", "aigw.db"]⟩ := by decide +kernel
  rw [Site.store, hd]
  rfl

/-- Two paths with question marks lead to a file that neither of them names. -/
theorem shared_beforeQuery : Bare "notes?.db" ∧ Bare "notes?.bak" ∧
    Target.read "notes?.db" = .file "notes" ∧ Target.read "notes?.bak" = .file "notes" :=
  ⟨⟨by decide, by decide, by decide⟩, ⟨by decide, by decide, by decide⟩, by decide, by decide⟩

end Bare

end PromptGateway.Database
