import MailConnection.Directory
import Mathlib.Data.List.Basic
import Mathlib.Data.List.Induction

/-!
# The order of the names in a directory

A directory of a list lists every name of it once, where the list has it first
(`ids_ofList`, `pairwise_ids_ofList`), and a name is found exactly if it is listed
(`get_eq_error_iff`).  If no name is given twice, nothing is lost or moved
(`connections_ofList_of_nodup`).
-/

namespace MailConnection

namespace Directory

variable {connections : List NamedConnection}

theorem ofList_concat (connections : List NamedConnection) (connection : NamedConnection) :
    ofList (connections ++ [connection]) = (ofList connections).put connection := by
  rw [ofList, ofList, List.foldl_append]
  rfl

/-- Each name is listed once, in the order in which the names first occur. -/
theorem ids_ofList (connections : List NamedConnection) :
    (ofList connections).ids = (connections.map (·.id)).eraseDups := by
  induction connections using List.reverseRecOn with
  | nil => rfl
  | append_singleton before connection ih =>
    rw [ofList_concat, ids_put, ih, List.map_append, List.eraseDups_append, List.map_singleton]
    generalize before.map (·.id) = names
    simp only [List.mem_eraseDups]
    split
    · rename_i hold
      simp [List.removeAll, hold]
    · rename_i hnew
      simp [List.removeAll, hnew, List.eraseDups_cons]

theorem mem_ids_ofList_iff {id : String} :
    id ∈ (ofList connections).ids ↔ id ∈ connections.map (·.id) := by
  rw [ids_ofList, List.mem_eraseDups]

theorem insert_of_not_mem {connection : NamedConnection}
    (h : connection.id ∉ connections.map (·.id)) :
    insert connection connections = connections ++ [connection] := by
  induction connections with
  | nil => rfl
  | cons first rest ih =>
    rw [List.map_cons, List.mem_cons, not_or] at h
    rw [insert, if_neg (Ne.symm h.1), ih h.2, List.cons_append]

/-- If no name is given twice, all connections are kept as they were given. -/
theorem connections_ofList_of_nodup (h : (connections.map (·.id)).Nodup) :
    (ofList connections).connections = connections := by
  induction connections using List.reverseRecOn with
  | nil => rfl
  | append_singleton before connection ih =>
    rw [List.map_append, List.nodup_append] at h
    obtain ⟨hbefore, _, hnew⟩ := h
    have hnot : connection.id ∉ before.map (·.id) := fun hmem =>
      hnew _ hmem _ (List.mem_singleton_self _) rfl
    calc (ofList (before ++ [connection])).connections
        = insert connection (ofList before).connections := by rw [ofList_concat, put]
      _ = insert connection before := by rw [ih hbefore]
      _ = before ++ [connection] := insert_of_not_mem hnot

theorem ids_ofList_of_nodup (h : (connections.map (·.id)).Nodup) :
    (ofList connections).ids = connections.map (·.id) := by
  rw [ids, connections_ofList_of_nodup h]

/-- A name that is listed before another one occurs before it. -/
theorem pairwise_ids_ofList (connections : List NamedConnection) :
    (ofList connections).ids.Pairwise fun earlier later =>
      (connections.map (·.id)).idxOf earlier < (connections.map (·.id)).idxOf later := by
  induction connections using List.reverseRecOn with
  | nil => exact List.Pairwise.nil
  | append_singleton before connection ih =>
    -- a further connection does not change where the names before it occur
    have hsame : ∀ id ∈ (ofList before).ids,
        ((before ++ [connection]).map (·.id)).idxOf id = (before.map (·.id)).idxOf id := by
      intro id hid
      rw [List.map_append, List.idxOf_append_of_mem (mem_ids_ofList_iff.mp hid)]
    have hbefore : (ofList before).ids.Pairwise fun earlier later =>
        ((before ++ [connection]).map (·.id)).idxOf earlier <
          ((before ++ [connection]).map (·.id)).idxOf later := by
      refine ih.imp_of_mem fun hearlier hlater hlt => ?_
      rwa [hsame _ hearlier, hsame _ hlater]
    rw [ofList_concat, ids_put]
    split
    · exact hbefore
    · rename_i hnew
      refine List.pairwise_append.mpr ⟨hbefore, List.pairwise_singleton _ _, ?_⟩
      rintro id hid _ hlast
      obtain rfl := List.mem_singleton.mp hlast
      have hnot : connection.id ∉ before.map (·.id) := fun hmem =>
        hnew (mem_ids_ofList_iff.mpr hmem)
      rw [hsame id hid, List.map_append, List.idxOf_append_of_notMem hnot, List.length_map]
      have hlt := List.idxOf_lt_length_of_mem (mem_ids_ofList_iff.mp hid)
      rw [List.length_map] at hlt
      exact Nat.lt_add_right _ hlt

theorem get?_eq_none_iff {directory : Directory} {id : String} :
    directory.get? id = none ↔ id ∉ directory.ids := by
  simp [get?, ids]

/-- Only a name that is not listed is not found. -/
theorem get_eq_error_iff {directory : Directory} {id : String} {error : LookupError} :
    directory.get id = .error error ↔ id ∉ directory.ids ∧ error = .connectionNotFound id := by
  rw [← get?_eq_none_iff, get]
  cases directory.get? id <;> simp [eq_comm]

end Directory

end MailConnection
