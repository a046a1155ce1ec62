import Mathlib.Data.List.Nodup

/-!
# Lists of named things

Where no two things have one name, each is the one that is found by its name.
-/

namespace MuxConsole

theorem find?_of_nodup {α : Type} {name : α → String} {items : List α}
    (distinct : (items.map name).Nodup) {item : α} (member : item ∈ items) :
    items.find? (fun other => name other = name item) = some item := by
  induction items with
  | nil => cases member
  | cons first rest ih =>
      rw [List.map_cons, List.nodup_cons] at distinct
      rcases List.mem_cons.mp member with rfl | later
      · simp
      · have other : name first ≠ name item := by
          intro same
          apply distinct.1
          rw [same]
          exact List.mem_map_of_mem later
        simp [other, ih distinct.2 later]

end MuxConsole
