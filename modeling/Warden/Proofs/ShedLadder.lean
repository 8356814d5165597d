import Mathlib.Data.List.Chain
import Warden.Proofs.DaemonLists

/-!
The shed ladder in closed form. Its steps are the running daemons without the first of those that
may be given up, without the first two of them, and so on, as many steps as leave one daemon
running. What else the order names makes no difference.
-/

namespace Warden.Daemon

/-- The running daemons that may be given up, in the order in which that happens. -/
def sheddable (daemons order : List String) : List String :=
  (order.filter daemons.contains).eraseDups

def without (daemons gone : List String) : List String :=
  daemons.filter fun name => !gone.contains name

theorem sheddable_cons_of_mem {daemons : List String} {candidate : String}
    (running : candidate ∈ daemons) (order : List String) :
    sheddable daemons (candidate :: order) =
      candidate :: sheddable (without daemons [candidate]) order := by
  have later : (order.filter daemons.contains).filter (fun name => !name == candidate) =
      order.filter (without daemons [candidate]).contains := by
    rw [List.filter_filter]
    apply List.filter_congr
    intro name _
    rw [Bool.eq_iff_iff]
    simp [without, and_comm]
  rw [sheddable, List.filter_cons_of_pos (by simpa using running), List.eraseDups_cons, later]
  rfl

theorem sheddable_cons_of_not_mem {daemons : List String} {candidate : String}
    (absent : candidate ∉ daemons) (order : List String) :
    sheddable daemons (candidate :: order) = sheddable daemons order := by
  rw [sheddable, List.filter_cons_of_neg (by simpa using absent), sheddable]

theorem without_cons (daemons gone : List String) (name : String) :
    without daemons (name :: gone) = without (without daemons [name]) gone := by
  simp only [without, List.filter_filter]
  apply List.filter_congr
  intro other _
  rw [Bool.eq_iff_iff]
  simp [and_comm]

theorem without_nil (daemons : List String) : without daemons [] = daemons := by
  simp [without]

theorem without_singleton (daemons : List String) (name : String) :
    without daemons [name] = daemons.filter (· != name) := by
  apply List.filter_congr
  intro other _
  rw [Bool.eq_iff_iff]
  simp

theorem length_without_singleton {daemons : List String} {name : String}
    (distinct : daemons.Nodup) (running : name ∈ daemons) :
    (without daemons [name]).length = daemons.length - 1 := by
  rw [without_singleton, ← distinct.erase_eq_filter, List.length_erase_of_mem running]

theorem shedLadder_eq {daemons : List String} (distinct : daemons.Nodup) (inhabited : daemons ≠ [])
    (order : List String) :
    shedLadder daemons order =
      (List.range (min (sheddable daemons order).length (daemons.length - 1))).map fun index =>
        without daemons ((sheddable daemons order).take (index + 1)) := by
  induction order generalizing daemons with
  | nil => simp [shedLadder, sheddable]
  | cons candidate order ih =>
      have positive : 0 < daemons.length := List.length_pos_iff.mpr inhabited
      rw [shedLadder]
      split
      next single => simp [single]
      next several =>
        split
        next found =>
          have running : candidate ∈ daemons := by simpa using found
          have length := length_without_singleton distinct running
          have fresh : (without daemons [candidate]).Nodup := List.filter_sublist.nodup distinct
          have others : without daemons [candidate] ≠ [] := by
            rw [← List.length_pos_iff]
            omega
          have count : min ((sheddable (without daemons [candidate]) order).length + 1)
              (daemons.length - 1) = min (sheddable (without daemons [candidate]) order).length
                ((without daemons [candidate]).length - 1) + 1 := by
            omega
          dsimp only
          rw [← without_singleton, ih fresh others,
            sheddable_cons_of_mem running, List.length_cons, count, List.range_succ_eq_map,
            List.map_cons, List.map_map]
          simp [Function.comp_def, ← without_cons]
        next missing =>
          have absent : candidate ∉ daemons := by simpa using missing
          rw [ih distinct inhabited, sheddable_cons_of_not_mem absent]

theorem isChain_shedLadder {daemons : List String} (distinct : daemons.Nodup)
    (order : List String) :
    (daemons :: shedLadder daemons order).IsChain fun before after =>
      after.Sublist before ∧ after.length + 1 = before.length := by
  induction order generalizing daemons with
  | nil => exact List.isChain_singleton _
  | cons candidate order ih =>
      rw [shedLadder]
      split
      · exact List.isChain_singleton _
      · split
        next found =>
          have running : candidate ∈ daemons := by simpa using found
          have positive : 0 < daemons.length := List.length_pos_of_mem running
          have length := length_without_singleton distinct running
          have fresh : (without daemons [candidate]).Nodup := List.filter_sublist.nodup distinct
          dsimp only
          rw [← without_singleton]
          exact List.isChain_cons_cons.mpr ⟨⟨List.filter_sublist, by omega⟩, ih fresh⟩
        next => exact ih distinct

theorem mem_without {daemons gone : List String} {name : String} :
    name ∈ without daemons gone ↔ name ∈ daemons ∧ name ∉ gone := by
  simp [without]

theorem mem_order_of_mem_sheddable {daemons order : List String} {name : String}
    (member : name ∈ sheddable daemons order) : name ∈ order := by
  rw [sheddable, List.mem_eraseDups] at member
  exact (List.mem_filter.mp member).1

/-- The ladder is exact. It has one step for each daemon that may be given up, as long as one is
left over, and its steps lose these daemons one by one, in their order. So no step is empty, a
daemon that is not in the order is in every step, and names of daemons that are not running may
stand in the order or not. -/
theorem shedLadder_exact {daemons : List String} (distinct : daemons.Nodup)
    (inhabited : daemons ≠ []) (order : List String) :
    (shedLadder daemons order).length =
        min (sheddable daemons order).length (daemons.length - 1) ∧
      (∀ (index : Nat) (step : List String), (shedLadder daemons order)[index]? = some step →
        step = without daemons ((sheddable daemons order).take (index + 1))) ∧
      ((daemons :: shedLadder daemons order).IsChain fun before after =>
        after.Sublist before ∧ after.length + 1 = before.length) ∧
      (∀ step ∈ shedLadder daemons order, step ≠ []) ∧
      (∀ step ∈ shedLadder daemons order, ∀ name ∈ daemons, name ∉ order → name ∈ step) ∧
      ∀ wider, wider.filter daemons.contains = order.filter daemons.contains →
        shedLadder daemons wider = shedLadder daemons order := by
  have closed (other : List String) := shedLadder_eq distinct inhabited other
  have steps (index : Nat) (step : List String)
      (found : (shedLadder daemons order)[index]? = some step) :
      step = without daemons ((sheddable daemons order).take (index + 1)) := by
    simp only [closed, List.getElem?_map, Option.map_eq_some_iff] at found
    obtain ⟨_, counted, rfl⟩ := found
    obtain ⟨_, rfl⟩ := List.getElem?_eq_some_iff.mp counted
    rw [List.getElem_range]
  refine ⟨?_, steps, isChain_shedLadder distinct order, shedLadder_ne_nil distinct order, ?_, ?_⟩
  · simp only [closed, List.length_map, List.length_range]
  · intro step member name running outside
    obtain ⟨index, found⟩ := List.mem_iff_getElem?.mp member
    rw [steps index step found, mem_without]
    exact ⟨running, fun gone => outside (mem_order_of_mem_sheddable (List.mem_of_mem_take gone))⟩
  · intro wider same
    simp only [closed, sheddable, same]

theorem shedLadder_exact_of_two :
    let daemons := ["httpd", "dnsd"]
    let order := ["dnsd", "snmpd", "dnsd", "httpd"]
    (daemons.Nodup ∧ daemons ≠ []) ∧ (shedLadder daemons order).length = 1 ∧
      (∀ step, (shedLadder daemons order)[0]? = some step → step = ["httpd"]) ∧
      shedLadder daemons ("sockd" :: order) = shedLadder daemons order := by
  intro daemons order
  have distinct : daemons.Nodup := by decide
  have inhabited : daemons ≠ [] := by decide
  obtain ⟨length, steps, _, _, _, strangers⟩ := shedLadder_exact distinct inhabited order
  exact ⟨⟨distinct, inhabited⟩, length, steps 0, strangers _ rfl⟩

end Warden.Daemon
