import CertRenewal.Refresh.System

/-!
Something read off a lane, and what becomes of it when one lane is changed or
another one is opened.
-/

namespace CertRenewal

/-- What is read off a lane, with a value for lanes that do not exist. -/
def readLane {Part : Type} (part : Lane → Part) (absent : Part) (lanes : List Lane)
    (lane : LaneId) : Part :=
  (lanes[lane]?.map part).getD absent

variable {Part : Type} {part : Lane → Part} {absent : Part} {lanes : List Lane} {lane : LaneId}
  {held : Lane}

theorem read_lane_found (found : lanes[lane]? = some held) :
    readLane part absent lanes lane = part held := by
  simp [readLane, found]

theorem read_lane_missing (missing : lanes[lane]? = none) :
    readLane part absent lanes lane = absent := by
  simp [readLane, missing]

theorem read_lane_set (new : Lane) (found : lanes[lane]? = some held) (other : LaneId) :
    readLane part absent (lanes.set lane new) other =
      if other = lane then part new else readLane part absent lanes other := by
  have bound := (List.getElem?_eq_some_iff.mp found).1
  unfold readLane
  rw [List.getElem?_set]
  by_cases same : lane = other
  · subst same
    simp [bound]
  · simp [same, Ne.symm same]

theorem read_lane_set_same {new : Lane} (found : lanes[lane]? = some held)
    (same : part new = part held) (other : LaneId) :
    readLane part absent (lanes.set lane new) other = readLane part absent lanes other := by
  rw [read_lane_set new found]
  split
  · rename_i itself
    rw [itself, read_lane_found found, same]
  · rfl

theorem modify_found {change : Lane → Lane} (found : lanes[lane]? = some held) :
    lanes.modify lane change = lanes.set lane (change held) := by
  have bound := (List.getElem?_eq_some_iff.mp found).1
  apply List.ext_getElem?
  intro other
  rw [List.getElem?_modify, List.getElem?_set]
  by_cases same : lane = other
  · subst same
    rw [found]
    simp [bound]
  · simp [same]

theorem read_lane_modify_same (lane : LaneId) {change : Lane → Lane}
    (same : ∀ held, part (change held) = part held) (other : LaneId) :
    readLane part absent (lanes.modify lane change) other =
      readLane part absent lanes other := by
  cases found : lanes[lane]? with
  | none => rw [List.modify_eq_self (List.getElem?_eq_none_iff.mp found)]
  | some held =>
      rw [modify_found found]
      exact read_lane_set_same found (same held) other

theorem read_lane_append (new : Lane) (empty : part new = absent) (lane : LaneId) :
    readLane part absent (lanes ++ [new]) lane = readLane part absent lanes lane := by
  unfold readLane
  rw [List.getElem?_append]
  split
  · rfl
  · rename_i outside
    rw [List.getElem?_eq_none (by omega : lanes.length ≤ lane)]
    cases lane - lanes.length <;> simp [empty]

end CertRenewal
