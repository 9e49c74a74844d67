import JsonTypings.Files.Saved
import Mathlib.Tactic.SplitIfs

/-! Writing a file. It is there afterwards with the bytes that were written, and nothing else
changes. -/
namespace JsonTypings.Files.Store

variable {s s' : Store} {p : Path} {place q : Place} {content content' : Encoding.Bytes}

/-! Entries -/

theorem find?_go (place q : Place) (e : Entry) (entries : List (Place × Entry)) :
    ((put.go place e entries).find? fun f => f.1 = q).map Prod.snd =
      if q = place then some e else (entries.find? fun f => f.1 = q).map Prod.snd := by
  induction entries with
  | nil =>
    by_cases h : q = place
    · simp [put.go, h]
    · simp [put.go, h, Ne.symm h]
  | cons f entries ih =>
    obtain ⟨r, old⟩ := f
    by_cases hr : r = place
    · subst hr
      by_cases h : q = r
      · simp [put.go, h]
      · simp [put.go, h, Ne.symm h]
    · by_cases h : r = q
      · subst h
        simp [put.go, hr]
      · simp only [put.go, hr, if_false]
        rw [List.find?_cons_of_neg (by simpa using h), List.find?_cons_of_neg (by simpa using h),
          ih]

theorem entry?_put (hplace : place ≠ []) (e : Entry) (q : Place) :
    entry? (s.put place e) q = if q = place then some e else s.entry? q := by
  unfold entry?
  split
  · rename_i hq
    rw [if_neg (hq ▸ Ne.symm hplace)]
  · exact find?_go place q e s.entries

/-! Paths -/

/-- Parts lead from a directory to a place where a file is, or may be made: all but the last one to
directories, and the last one to none. -/
inductive Follows (s : Store) : Place → List Text → Place → Prop
  | up {directory place : Place} {rest : List Text} (h : Follows s directory.dropLast rest place) :
    Follows s directory (upward :: rest) place
  | down {directory place : Place} {part : Text} {rest : List Text} (hpart : part ≠ upward)
    (hshort : ¬ nameLimit < byteLength part) (hentry : s.entry? (directory ++ [part]) = some .directory)
    (h : Follows s (directory ++ [part]) rest place) : Follows s directory (part :: rest) place
  | last {directory : Place} {part : Text} (hpart : part ≠ upward)
    (hshort : ¬ nameLimit < byteLength part)
    (hentry : s.entry? (directory ++ [part]) ≠ some .directory) :
    Follows s directory [part] (directory ++ [part])

/-- What a target says of the place where a file is to be written. -/
def Target.IsFile : Target → Place → Prop
  | .found place (.file _), q => q = place
  | .vacant place, q => q = place
  | .found _ .directory, _ => False

theorem follows_of_follow {directory : Place} {parts : List Text} {target : Target}
    (h : s.follow directory parts = .ok target) (hfile : target.IsFile place) :
    s.Follows directory parts place := by
  induction parts generalizing directory with
  | nil =>
    cases h
    cases hfile
  | cons part rest ih =>
    simp only [follow] at h
    by_cases hup : part = upward
    · rw [if_pos hup] at h
      exact hup ▸ .up (ih h)
    rw [if_neg hup] at h
    by_cases hlong : nameLimit < byteLength part
    · simp [hlong] at h
    rw [if_neg hlong] at h
    cases rest with
    | nil =>
      cases hentry : s.entry? (directory ++ [part]) with
      | none =>
        obtain rfl : Target.vacant (directory ++ [part]) = target := by simpa [hentry] using h
        obtain rfl := hfile
        exact .last hup hlong (by simp [hentry])
      | some e =>
        cases e with
        | directory =>
          rw [hentry] at h
          exact .down hup hlong hentry (ih h)
        | file content =>
          obtain rfl : Target.found (directory ++ [part]) (.file content) = target := by
            simpa [hentry] using h
          obtain rfl := hfile
          exact .last hup hlong (by simp [hentry])
    | cons next rest =>
      cases hentry : s.entry? (directory ++ [part]) with
      | none => simp [hentry] at h
      | some e =>
        cases e with
        | directory =>
          rw [hentry] at h
          exact .down hup hlong hentry (ih h)
        | file content => simp [hentry] at h

namespace Follows

variable {directory : Place} {parts : List Text}

theorem ne_nil (h : s.Follows directory parts place) : place ≠ [] := by
  induction h with
  | up _ ih => exact ih
  | down _ _ _ _ ih => exact ih
  | last => simp

theorem entry?_ne (h : s.Follows directory parts place) : s.entry? place ≠ some .directory := by
  induction h with
  | up _ ih => exact ih
  | down _ _ _ _ ih => exact ih
  | last _ _ hentry => exact hentry

/-- A file that is put at the place is found there. -/
theorem follow_put (h : s.Follows directory parts place) (content : Encoding.Bytes) :
    (s.put place (.file content)).follow directory parts = .ok (.found place (.file content)) := by
  have hentries (q : Place) := entry?_put (s := s) h.ne_nil (.file content) q
  have hdirectory := h.entry?_ne
  induction h with
  | up _ ih => rw [follow, if_pos rfl, ih hentries hdirectory]
  | @down directory place part rest hpart hshort hentry _ ih =>
    -- The directories on the way are not the place of the file.
    have hne : directory ++ [part] ≠ place := by
      rintro rfl
      exact hdirectory hentry
    have hkept : entry? (s.put place (.file content)) (directory ++ [part]) = some .directory := by
      rw [hentries, if_neg hne, hentry]
    simp only [follow, if_neg hpart, if_neg hshort, hkept]
    exact ih hentries hdirectory
  | @last directory part hpart hshort _ =>
    have hthere : entry? (s.put (directory ++ [part]) (.file content)) (directory ++ [part]) =
        some (.file content) := by
      rw [hentries, if_pos rfl]
    simp only [follow, if_neg hpart, if_neg hshort, hthere]
    rfl

end Follows

/-- A path leads to a place where a file is, or may be made. -/
def LeadsTo (s : Store) (p : Path) (place : Place) : Prop :=
  ∃ target, s.target p = .ok target ∧ target.IsFile place

/-- A file can be written at a path. -/
def Writable (s : Store) (p : Path) : Prop := ∃ place, s.LeadsTo p place

/-- A path that leads to a place leads to the file that was put there. -/
theorem LeadsTo.target_put (h : s.LeadsTo p place) (content : Encoding.Bytes) :
    place ≠ [] ∧ (s.put place (.file content)).target p = .ok (.found place (.file content)) := by
  obtain ⟨target, htarget, hfile⟩ := h
  unfold Store.target at htarget ⊢
  cases hencodable : unencodable? 0 p.toText with
  | some e => simp [hencodable] at htarget
  | none =>
    simp only [hencodable] at htarget ⊢
    by_cases hnull : (p.toText.any fun c => c.val = 0) = true
    · simp [hnull] at htarget
    by_cases hlong : pathLimit < byteLength p.toText
    · simp [hnull, hlong] at htarget
    rw [if_neg hnull, if_neg hlong] at htarget ⊢
    cases hfollow : s.follow (if p.isAbsolute then [] else s.working) p.parts with
    | error e => simp [hfollow, Except.mapError] at htarget
    | ok found =>
      obtain rfl : found = target := by simpa [hfollow, Except.mapError] using htarget
      have hfollows := follows_of_follow hfollow hfile
      refine ⟨hfollows.ne_nil, ?_⟩
      have hput := hfollows.follow_put content
      rw [put] at hput ⊢
      rw [hput]
      rfl

theorem LeadsTo.write (h : s.LeadsTo p place) (content : Encoding.Bytes) :
    s.write p content = .ok (s.put place (.file content)) := by
  obtain ⟨target, htarget, hfile⟩ := h
  match target, hfile with
  | .vacant _, rfl => rw [Store.write, htarget]
  | .found _ (.file _), rfl => rw [Store.write, htarget]

/-- Writing puts the bytes at the place that the path leads to. -/
theorem exists_leadsTo (h : s.write p content = .ok s') :
    ∃ place, s.LeadsTo p place ∧ s' = s.put place (.file content) := by
  unfold Store.write at h
  split at h
  · cases h
  · cases h
  · rename_i place _ htarget
    exact ⟨place, ⟨_, htarget, rfl⟩, (Except.ok.inj h).symm⟩
  · rename_i place htarget
    exact ⟨place, ⟨_, htarget, rfl⟩, (Except.ok.inj h).symm⟩

/-- What was written is read. -/
theorem LeadsTo.read_put (h : s.LeadsTo p place) (content : Encoding.Bytes) :
    (s.put place (.file content)).read p = .ok content := by
  rw [Store.read, (h.target_put content).2]

theorem read_of_write (h : s.write p content = .ok s') : s'.read p = .ok content := by
  obtain ⟨place, hleads, rfl⟩ := exists_leadsTo h
  exact hleads.read_put content

/-- Other places keep what they have. -/
theorem LeadsTo.entry?_put_ne (h : s.LeadsTo p place) (content : Encoding.Bytes) (hq : q ≠ place) :
    entry? (s.put place (.file content)) q = s.entry? q := by
  rw [entry?_put (h.target_put content).1, if_neg hq]

end JsonTypings.Files.Store
