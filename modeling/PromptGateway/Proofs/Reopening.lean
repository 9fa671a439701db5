import PromptGateway.Database
import PromptGateway.Proofs.Disk
import PromptGateway.Proofs.Operation

/-! # Reopening a registry

A registry that is kept in a file is taken up as it was left. Work that is cut into pieces, each of
which opens the file anew under whatever spelling of its address, comes to what it comes to when the
file is opened once. A registry that is kept nowhere starts empty and leaves nothing behind.
-/

namespace PromptGateway

namespace Database

variable {d d' : Disk} {path text : String} {place : Place} {g : Registry}

theorem openPlace_of_registry (hr : place ≠ []) (hl : place.any Path.isLong = false)
    (h : d.node? place = some (.registry g)) : openPlace d place = (.ok (.file place), d) := by
  rw [openPlace, if_neg (by simp [hr, hl]), h]

theorem of_openPlace {s : Store} (h : openPlace d place = (.ok s, d')) :
    s = .file place ∧ place ≠ [] ∧ place.any Path.isLong = false ∧ d.Keeps d' ∧
      d'.isDirectory place = false := by
  unfold openPlace at h
  split at h
  · cases h
  · rename_i hp
    rw [not_or, Bool.not_eq_true] at hp
    cases hn : d.node? place with
    | none =>
      rw [hn] at h
      dsimp only at h
      split at h
      · cases h
        refine ⟨rfl, hp.1, hp.2, Disk.keeps_put (by rw [Disk.isDirectory, hn]) _, ?_⟩
        rw [Disk.isDirectory, Disk.node?_put_self hp.1]
      · cases h
    | some m =>
      rw [hn] at h
      cases m with
      | registry g =>
        cases h
        exact ⟨rfl, hp.1, hp.2, .refl d, by rw [Disk.isDirectory, hn]⟩
      | _ => cases h

theorem openFile_of_leads (hz : ¬ (Path.read path).parent.names.any hasZero = true)
    (hz' : ¬ hasZero path = true) (hs : Site.read path = .ok (.path text))
    (hl : d.Leads (d.start (Path.read path).parent) (Path.read path).parent.names) :
    openFile d path = openPlace d (d.placeOf (Path.read text)) := by
  simp only [openFile, if_neg hz, Disk.ensurePath_of_leads hl, openSite, if_neg hz', hs]

/-- Whatever registry is put at a place, opening a path takes it up from there. -/
def Standing (d : Disk) (path : String) (place : Place) : Prop :=
  ∀ g, openFile (d.put place (.registry g)) path =
    (.ok (.file place), d.put place (.registry g))

/-- A file that was opened once stands. -/
theorem standing_of_openFile (h : openFile d path = (.ok (.file place), d')) :
    place ≠ [] ∧ Standing d' path place := by
  unfold openFile at h
  dsimp only at h
  split at h
  · cases h
  rename_i hz
  split at h
  · cases h
  rename_i e he
  obtain ⟨-, hl⟩ := Disk.leads_of_ensurePath he
  unfold openSite at h
  split at h
  · cases h
  rename_i hz'
  split at h
  · cases h
  · cases h
  rename_i text ht
  obtain ⟨⟨⟩, hr, hlong, hk, hd⟩ := of_openPlace h
  refine ⟨hr, fun g => ?_⟩
  -- neither the opening nor the registry that is put there takes a directory away
  have hkp := hk.trans (Disk.keeps_put hd (.registry g))
  rw [openFile_of_leads hz hz' ht (by rw [hkp.start_eq]; exact hkp.leads hl), hkp.placeOf_eq]
  exact openPlace_of_registry hr hlong (Disk.node?_put_self hr)

theorem registry_put (hp : place ≠ []) (d : Disk) (g : Registry) :
    registry (d.put place (.registry g)) (.file place) = g := by
  simp only [registry, Disk.node?_put_self hp]

theorem openAddress_file {address : String} (h : Target.read address = .file path) (d : Disk) :
    (openAddress d address).outcome = (openFile d path).1 ∧
      (openAddress d address).disk = (openFile d path).2 := by
  unfold openAddress
  rw [h]
  exact ⟨rfl, rfl⟩

end Database

structure Observed where
  result : Response.Result
  events : List Event
  sent : List Post

def Job.run (j : Job) (g : Registry) : Observed × Registry :=
  let (result, w) := j.operation.program.runIn (j.world.on g)
  (⟨result, w.events, w.sent⟩, w.registry)

def Registry.serve (g : Registry) : List Job → List Observed × Registry
  | [] => ([], g)
  | j :: jobs =>
    let (a, g) := j.run g
    let (rest, g) := g.serve jobs
    (a :: rest, g)

theorem Registry.serve_append (g : Registry) (jobs jobs' : List Job) :
    g.serve (jobs ++ jobs') =
      ((g.serve jobs).1 ++ ((g.serve jobs).2.serve jobs').1, ((g.serve jobs).2.serve jobs').2) := by
  induction jobs generalizing g with
  | nil => rfl
  | cons j jobs ih =>
    simp only [List.cons_append, serve, ih]

theorem Registry.length_serve (g : Registry) (jobs : List Job) :
    (g.serve jobs).1.length = jobs.length := by
  induction jobs generalizing g with
  | nil => rfl
  | cons j jobs ih => simp only [serve, List.length_cons, ih]

structure Connection where
  address : String
  jobs : List Job

namespace Disk

open Database

/-- Opens the registry of a connection, carries out the jobs on it, and leaves it in its store. -/
def connect (d : Disk) (c : Connection) : Except Database.Fault (List Observed) × Disk :=
  let opening := openAddress d c.address
  match opening.outcome with
  | .error fault => (.error fault, opening.disk)
  | .ok store =>
    let (answers, g) := (registry opening.disk store).serve c.jobs
    (.ok answers, keep opening.disk g store)

def connectAll (d : Disk) :
    List Connection → List (Except Database.Fault (List Observed)) × Disk
  | [] => ([], d)
  | c :: cs =>
    let (a, d) := d.connect c
    let (rest, d) := d.connectAll cs
    (a :: rest, d)

variable {d d' : Disk} {path : String} {place : Place} {g : Registry} {c : Connection}
  {cs : List Connection}

theorem connect_standing (h : Standing d path place) (hp : place ≠ [])
    (hc : Target.read c.address = .file path) :
    (d.put place (.registry g)).connect c =
      (.ok (g.serve c.jobs).1, d.put place (.registry (g.serve c.jobs).2)) := by
  obtain ⟨ho, hd⟩ := openAddress_file hc (d.put place (.registry g))
  rw [h g] at ho hd
  simp only [connect, ho, hd, registry_put hp, keep, put_put]

/-- Each connection to a file that stands goes on with the registry that the last one left. -/
theorem connectAll_standing (h : Standing d path place) (hp : place ≠ [])
    (hcs : ∀ c ∈ cs, Target.read c.address = .file path) :
    ∃ answers : List (List Observed),
      (d.put place (.registry g)).connectAll cs =
        (answers.map .ok, d.put place (.registry (g.serve (cs.flatMap (·.jobs))).2)) ∧
      answers.flatten = (g.serve (cs.flatMap (·.jobs))).1 ∧
      List.Forall₂ (fun c a => a.length = c.jobs.length) cs answers := by
  -- the place stands whatever registry is put there, so only the registry changes
  induction cs generalizing g with
  | nil => exact ⟨[], rfl, rfl, .nil⟩
  | cons c cs ih =>
    obtain ⟨answers, ha, hf, hl⟩ := ih (g := (g.serve c.jobs).2) fun c' hm => hcs c' (.tail _ hm)
    refine ⟨(g.serve c.jobs).1 :: answers, ?_, ?_, .cons (g.length_serve c.jobs) hl⟩
    · rw [connectAll, connect_standing h hp (hcs c (.head _))]
      simp only [ha, List.flatMap_cons, Registry.serve_append, List.map_cons]
    · rw [List.flatten_cons, List.flatMap_cons, Registry.serve_append, hf]

/-- The first connection makes the file, or finds it. -/
theorem connect_opened {address : String} (ha : Target.read address = .file path)
    (ho : openFile d path = (.ok (.file place), d')) (jobs : List Job) :
    d.connect ⟨address, jobs⟩ = (.ok ((registry d' (.file place)).serve jobs).1,
      d'.put place (.registry ((registry d' (.file place)).serve jobs).2)) := by
  obtain ⟨ho', hd⟩ := openAddress_file ha d
  rw [ho] at ho' hd
  simp only [connect, ho', hd, keep]

theorem connect_memory (d : Disk) {address : String} (h : Target.read address = .memory)
    (jobs : List Job) : d.connect ⟨address, jobs⟩ = (.ok (({} : Registry).serve jobs).1, d) := by
  simp only [connect, openAddress, h, registry, keep]

theorem target_memory : Target.read "sqlite::memory:" = .memory := by decide

/--
Work on a file that can be opened comes to the same, answers and disk, however it is cut into
connections. A path that opens no file, such as `file::memory:` or `file:`, is not meant here. Work
in memory starts from nothing and leaves every disk as it is.
-/
theorem connectAll_invisible (d : Disk) {address : String} {place : Place}
    (ha : Target.read address = .file path)
    (ho : (openAddress d address).outcome = .ok (.file place))
    (hcs : ∀ c' ∈ c :: cs, Target.read c'.address = .file path) :
    (∃ answers : List (List Observed),
      (d.connectAll (c :: cs)).1 = answers.map .ok ∧
      List.Forall₂ (fun c a => a.length = c.jobs.length) (c :: cs) answers ∧
      d.connect ⟨address, (c :: cs).flatMap (·.jobs)⟩ =
        (.ok answers.flatten, (d.connectAll (c :: cs)).2)) ∧
    ∀ (e : Disk) (jobs : List Job),
      e.connect ⟨"sqlite::memory:", jobs⟩ = (.ok (({} : Registry).serve jobs).1, e) := by
  refine ⟨?_, fun e jobs => connect_memory e target_memory jobs⟩
  have hf : openFile d path = (.ok (.file place), (openFile d path).2) := by
    rw [← ho, (openAddress_file ha d).1]
  obtain ⟨hp, hst⟩ := standing_of_openFile hf
  obtain ⟨answers, hall, hfl, hlen⟩ := connectAll_standing
    (g := ((registry (openFile d path).2 (.file place)).serve c.jobs).2) hst hp
    fun c' hm => hcs c' (.tail _ hm)
  refine ⟨((registry (openFile d path).2 (.file place)).serve c.jobs).1 :: answers, ?_,
    .cons (Registry.length_serve _ _) hlen, ?_⟩
  · rw [connectAll, connect_opened (hcs c (.head _)) hf c.jobs]
    simp only [hall, List.map_cons]
  · rw [connect_opened ha hf, connectAll, connect_opened (hcs c (.head _)) hf c.jobs]
    simp only [hall, hfl, List.flatMap_cons, List.flatten_cons, Registry.serve_append]

/-- Storing and removing a platform and storing another one, under spellings of one path. -/
def pieces : List Connection :=
  let storing : Operation :=
    .create { url := "http://h", accessKey := "k", displayName := "d", model := "m" }
  [⟨"sqlite://a/b.db", [⟨storing, {}⟩]⟩, ⟨"sqlite:a/b.db?mode=rwc", [⟨.delete 1, {}⟩]⟩,
    ⟨" a/b.db", [⟨storing, {}⟩, ⟨.get 2, {}⟩]⟩]

theorem connectAll_invisible_pieces :
    ∃ answers : List (List Observed),
      (({} : Disk).connectAll pieces).1 = answers.map .ok ∧
      List.Forall₂ (fun c a => a.length = c.jobs.length) pieces answers ∧
      ({} : Disk).connect ⟨"sqlite://a/b.db?x", pieces.flatMap (·.jobs)⟩ =
        (.ok answers.flatten, (({} : Disk).connectAll pieces).2) := by
  have ha : Target.read "sqlite://a/b.db?x" = .file "a/b.db" := by decide
  have ho : (openAddress {} "sqlite://a/b.db?x").outcome = .ok (.file ["home", "a", "b.db"]) := by
    decide +kernel
  exact (connectAll_invisible {} ha ho (by decide)).1

end Disk

end PromptGateway
