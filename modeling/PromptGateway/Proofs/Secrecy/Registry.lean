import Mathlib.Data.List.Basic
import PromptGateway.Proofs.Except
import PromptGateway.Registry

/-! # Registries that differ in credentials

Two registries are alike if they are equal but for the credentials that both of them have. What a
call comes to on one of them is alike to what it comes to on the other, and so are the registries
after it: whatever a call does, it does behind a mask that hides which credential a row has.
-/

namespace PromptGateway

/-- What can be seen of a credential: whether there is one. -/
def veil (accessKey : String) : String := if accessKey = "" then "" else "*"

@[simp] theorem veil_veil (k : String) : veil (veil k) = veil k := by
  unfold veil
  split <;> simp_all

theorem veil_eq_iff {k k' : String} : veil k = veil k' ↔ (k = "" ↔ k' = "") := by
  unfold veil
  split <;> split <;> simp_all

def Platform.masked (q : Platform) : Platform :=
  { q with profile := { q.profile with accessKey := veil q.profile.accessKey } }

@[simp] theorem Platform.masked_masked (q : Platform) : q.masked.masked = q.masked := by
  simp [masked]

def Platform.Alike (q q' : Platform) : Prop := q.masked = q'.masked

namespace Row

def masked (r : Row) : Row := { r with accessKey := veil r.accessKey }

/-- Equality of rows but for a credential that both of them have. -/
structure Alike (r r' : Row) : Prop where
  rest : { r with accessKey := "" } = { r' with accessKey := "" }
  accessKey : r.accessKey = "" ↔ r'.accessKey = ""

variable {r r' : Row}

theorem alike_iff : r.Alike r' ↔ r.masked = r'.masked := by
  obtain ⟨_, _, _, _, _, _, _, _, _⟩ := r
  obtain ⟨_, _, _, _, _, _, _, _, _⟩ := r'
  constructor
  · rintro ⟨hr, hk⟩
    simp_all [masked, veil_eq_iff]
  · intro h
    simp only [masked, mk.injEq, veil_eq_iff] at h
    exact ⟨by simp_all, h.2.2.2.1⟩

@[simp] theorem masked_masked (r : Row) : r.masked.masked = r.masked := by
  simp [masked]

theorem masked_update (r : Row) (c : Changes) :
    (r.masked.update c).masked = (r.update c).masked := by
  unfold update masked
  cases c.accessKey? <;> simp

theorem decodeAs_masked (r : Row) (id : Int32) :
    r.masked.decodeAs id = (r.decodeAs id).map Platform.masked := by
  unfold decodeAs masked
  cases moment r.createdTs with
  | error e => rfl
  | ok c => cases moment r.updatedTs <;> rfl

theorem number_masked (r : Row) : r.masked.number = r.number := rfl

theorem decode_masked (r : Row) : r.masked.decode = r.decode.map Platform.masked := by
  unfold decode
  rw [number_masked]
  cases r.number with
  | error e => rfl
  | ok id => exact r.decodeAs_masked id

theorem decodeAll_masked (rows : List Row) :
    decodeAll (rows.map masked) = (decodeAll rows).map (List.map Platform.masked) := by
  unfold decodeAll
  rw [mapM_map_of_comm (h := Prod.map masked fun n => n)]
  · cases rows.mapM fun r => return (r, ← r.number) with
    | error e => rfl
    | ok numbered => exact mapM_map_of_comm (fun x => x.1.decodeAs_masked x.2) numbered
  · intro r
    rw [number_masked]
    cases r.number <;> rfl

end Row

namespace Call

/-- What can be seen of what a call yields. -/
def mask : (c : Call) → c.Result → c.Result
  | insert _ | get _ | update _ _ => Platform.masked
  | find _ => List.map Platform.masked
  | delete _ => id

end Call

namespace Registry

def masked (g : Registry) : Registry := { g with rows := g.rows.map Row.masked }

/-- Equality of registries but for credentials that both of them have. -/
structure Alike (g g' : Registry) : Prop where
  rows : List.Forall₂ Row.Alike g.rows g'.rows
  lastId : g.lastId = g'.lastId

variable {g g' : Registry}

theorem alike_iff : g.Alike g' ↔ g.masked = g'.masked := by
  have hr : List.Forall₂ Row.Alike g.rows g'.rows ↔
      g.rows.map Row.masked = g'.rows.map Row.masked := by
    rw [map_eq_map_iff_forall₂]
    exact iff_of_eq (congrArg (List.Forall₂ · g.rows g'.rows)
      (funext₂ fun _ _ => propext Row.alike_iff))
  simp only [masked, mk.injEq]
  exact ⟨fun h => ⟨hr.mp h.rows, h.lastId⟩, fun h => ⟨hr.mpr h.1, h.2⟩⟩

@[simp] theorem masked_masked (g : Registry) : g.masked.masked = g.masked := by
  simp [masked, Function.comp_def]

theorem row?_masked (g : Registry) (k : Int) : g.masked.row? k = (g.row? k).map Row.masked := by
  rw [masked, row?, List.find?_map]
  rfl

theorem select_masked (g : Registry) (q : Query) :
    g.masked.select q = (g.select q).map Row.masked := by
  have hw (rows : List Row) : q.window (rows.map Row.masked) = (q.window rows).map Row.masked := by
    unfold Query.window
    cases q.offset? <;> cases q.limit? <;> simp
  have hs (rows : List Row) : (rows.map Row.masked).mergeSort Row.listedBefore =
      (rows.mergeSort Row.listedBefore).map Row.masked :=
    (List.map_mergeSort (f := Row.masked) fun _ _ _ _ => rfl).symm
  have hf : (g.rows.map Row.masked).filter q.matches = (g.rows.filter q.matches).map Row.masked :=
    List.filter_map
  rw [select, masked, hf, hs, hw, select]

theorem get_masked (g : Registry) (id : Int32) :
    g.masked.get id = (g.get id).map Platform.masked := by
  rw [get, get, row?_masked]
  cases g.row? id.toInt with
  | none => rfl
  | some r => exact r.decode_masked

theorem update_masked (g : Registry) (id : Int32) (c : Changes) :
    (g.masked.update id c).1.map Platform.masked = (g.update id c).1.map Platform.masked ∧
      (g.masked.update id c).2.masked = (g.update id c).2.masked := by
  unfold update
  rw [row?_masked]
  cases g.row? id.toInt with
  | none => exact ⟨rfl, g.masked_masked⟩
  | some r =>
    refine ⟨?_, ?_⟩
    · change (r.masked.update c).decode.map Platform.masked =
        (r.update c).decode.map Platform.masked
      rw [← Row.decode_masked, ← Row.decode_masked, Row.masked_update]
    · have hm (s : Row) : (if s.masked.id = id.toInt then s.masked.update c else s.masked).masked =
          (if s.id = id.toInt then s.update c else s).masked := by
        rw [apply_ite Row.masked, apply_ite Row.masked, s.masked_update, s.masked_masked]
        rfl
      simp [masked, Function.comp_def, hm]

theorem insert_masked (g : Registry) (e : Entry) :
    (g.masked.insert e).1.map Platform.masked = (g.insert e).1.map Platform.masked ∧
      (g.masked.insert e).2.masked = (g.insert e).2.masked := by
  unfold insert
  rw [show g.masked.lastId = g.lastId from rfl]
  split
  · exact ⟨rfl, by simp [masked, put, Function.comp_def]⟩
  · exact ⟨rfl, g.masked_masked⟩

theorem delete_masked (g : Registry) (id : Int32) :
    (g.masked.delete id).1 = (g.delete id).1 ∧
      (g.masked.delete id).2.masked = (g.delete id).2.masked := by
  unfold delete
  rw [row?_masked]
  cases g.row? id.toInt with
  | none => exact ⟨rfl, g.masked_masked⟩
  | some r => exact ⟨rfl, by simp [masked, List.filter_map, Function.comp_def]; rfl⟩

/-- What a call does, it does behind the mask. -/
theorem perform_masked (g : Registry) (c : Call) :
    (g.masked.perform c).1.map c.mask = (g.perform c).1.map c.mask ∧
      (g.masked.perform c).2.masked = (g.perform c).2.masked := by
  cases c with
  | insert e => exact g.insert_masked e
  | find q =>
    refine ⟨?_, g.masked_masked⟩
    rw [perform, perform, find, select_masked, Row.decodeAll_masked, find]
    cases Row.decodeAll (g.select q) with
    | error e => rfl
    | ok qs => simp [Except.map, Call.mask, Function.comp_def]
  | get id =>
    refine ⟨?_, g.masked_masked⟩
    rw [perform, perform, get_masked]
    cases g.get id with
    | error e => rfl
    | ok q => simp [Except.map, Call.mask]
  | update id c => exact g.update_masked id c
  | delete id =>
    obtain ⟨hr, hg⟩ := g.delete_masked id
    exact ⟨congrArg _ hr, hg⟩

/-- Alike registries come to alike ends. -/
theorem Alike.perform (h : g.Alike g') (c : Call) :
    (g.perform c).1.map c.mask = (g'.perform c).1.map c.mask ∧
      (g.perform c).2.Alike (g'.perform c).2 := by
  rw [alike_iff] at *
  obtain ⟨hr, hg⟩ := g.perform_masked c
  obtain ⟨hr', hg'⟩ := g'.perform_masked c
  rw [h] at hr hg
  exact ⟨hr.symm.trans hr', hg.symm.trans hg'⟩

end Registry

end PromptGateway
