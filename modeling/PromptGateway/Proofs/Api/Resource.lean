import PromptGateway.Proofs.Api.View
import PromptGateway.Proofs.Moment.Reader

/-! # Resources are read back from their JSON forms

A platform whose times are whole seconds is read from its text as the same platform, in whatever
year it was made and changed, and so is a listing of views with or without a token.
-/

namespace PromptGateway

open Json (Cursor Shape)

theorem Json.Shape.writes_moment {a : Moment} (ha : a.nanos = 0) : Shape.moment.Writes a :=
  ⟨a.text, Json.stringText_stringChars a.text, Moment.read_text ha⟩

namespace Platform

@[simp] theorem ofCarrier_toCarrier (p : Platform) : ofCarrier p.toCarrier = p := by
  simp [ofCarrier, toCarrier]

theorem writes {p : Platform} (hc : p.createdAt.nanos = 0) (hu : p.updatedAt.nanos = 0) :
    shape.Writes p.toCarrier := by
  have ht (s : String) := Shape.writes_text s
  refine Shape.writes_record ?_ ?_ "AiPlatform" false
  · decide
  · exact ⟨fun _ => Shape.writes_number .int32 p.id, fun _ => p.profile.kind.writes,
      fun _ => ht p.profile.url, fun _ => ht p.profile.accessKey,
      fun _ => ht p.profile.displayName, fun _ => ht p.profile.description,
      fun _ => ht p.profile.model, fun _ => Shape.writes_moment hc,
      fun _ => Shape.writes_moment hu, trivial⟩

def read (c : Cursor) : Except Json.Failure Platform := (shape.readAll c).map ofCarrier

theorem read_write {p : Platform} (hc : p.createdAt.nanos = 0) (hu : p.updatedAt.nanos = 0) :
    read (.ofString (shape.write p.toCarrier)) = .ok p := by
  rw [read, (writes hc hu).readAll (by decide) (by decide)]
  exact congrArg Except.ok p.ofCarrier_toCarrier

end Platform

namespace Api

namespace PlatformView

@[simp] theorem ofCarrier_toCarrier (v : PlatformView) : ofCarrier v.toCarrier = v := by
  simp [ofCarrier, toCarrier]

theorem writes (v : PlatformView) : shape.Writes v.toCarrier := by
  have ht (s : String) := Shape.writes_text s
  refine Shape.writes_record ?_ ?_ "PlatformDto" false
  · decide
  · exact ⟨fun _ => ht v.name, fun _ => Shape.writes_number .int32 v.id, fun _ => v.kind.writes,
      fun _ => ht v.url, fun _ => Shape.writes_flag v.hasAccessKey, fun _ => ht v.displayName,
      fun _ => ht v.description, fun _ => ht v.model,
      fun _ => Shape.writes_number .int64 v.createTime,
      fun _ => Shape.writes_number .int64 v.updateTime, trivial⟩

end PlatformView

namespace Listing

@[simp] theorem ofCarrier_toCarrier (l : Listing) : ofCarrier l.toCarrier = l := by
  simp [ofCarrier, toCarrier, Function.comp_def]

theorem writes (l : Listing) : shape.Writes l.toCarrier := by
  have hp : (Shape.list PlatformView.shape).Writes (l.platforms.map PlatformView.toCarrier) :=
    Shape.writes_list (List.forall_mem_map.mpr fun v _ => v.writes)
  refine Shape.writes_record ?_ ?_ "ListPlatformsResponse" false
  · decide
  · refine ⟨fun _ => hp, fun ht => ?_, trivial⟩
    rcases l with ⟨platforms, _ | token⟩
    · cases ht
    · exact (Shape.writes_text token).some

def read (c : Cursor) : Except Json.Failure Listing := (shape.readAll c).map ofCarrier

theorem read_text (l : Listing) : read (.ofString l.text) = .ok l := by
  rw [read, text, l.writes.readAll (by decide) (by decide)]
  exact congrArg Except.ok l.ofCarrier_toCarrier

end Listing

end Api

/-- Platforms with times of whole seconds and listings are read back from their JSON forms. -/
theorem resources_read_back :
    (∀ p : Platform, p.createdAt.nanos = 0 → p.updatedAt.nanos = 0 →
      Platform.read (.ofString (Platform.shape.write p.toCarrier)) = .ok p) ∧
    ∀ l : Api.Listing, Api.Listing.read (.ofString l.text) = .ok l :=
  ⟨fun _ hc hu => Platform.read_write hc hu, Api.Listing.read_text⟩

/-- A platform from the last second of a leap day before year zero to the year ten thousand. -/
def Platform.enduring : Platform :=
  { id := -7, profile := { kind := .deepseek, url := "\"\\", model := "\x00" }
    createdAt := { seconds := -62288265601 }, updatedAt := { seconds := 253402300800 } }

theorem resources_read_back_enduring :
    Platform.enduring.createdAt.text = "-0004-02-29T23:59:59Z" ∧
      Platform.enduring.updatedAt.text = "+10000-01-01T00:00:00Z" ∧
      Platform.read (.ofString (Platform.shape.write Platform.enduring.toCarrier)) =
        .ok Platform.enduring :=
  ⟨rfl, rfl, resources_read_back.1 Platform.enduring rfl rfl⟩

end PromptGateway
