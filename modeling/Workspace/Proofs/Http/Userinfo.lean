/-
# Hosts without a user

The user in a URL stands in front of an at sign, and both in front of the path.  So if a URL is put
together from a host and a path of the interface, the user is in the host: without an at sign there
is none (`Userinfo.ofUrl?_eq_none`).
-/
import Mathlib.Data.List.TakeWhile
import Workspace.Http.Userinfo
namespace Workspace.Http

namespace Target

variable {cs rest : List Char}

/-- A scheme ends before the first slash. -/
theorem splitScheme_append (cs rest : List Char) :
    ∃ cs', (splitScheme (cs ++ '/' :: rest)).2 = cs' ++ '/' :: rest ∧ cs' ⊆ cs := by
  have hslash : isSchemeChar '/' = false := by decide
  -- a scheme ends before the first slash, so what is behind that slash has no say
  have hdrop : (cs ++ '/' :: rest).dropWhile isSchemeChar =
      cs.dropWhile isSchemeChar ++ '/' :: rest := by
    rw [List.dropWhile_append, List.dropWhile_cons_of_neg (by simp [hslash])]
    split
    · next hempty => rw [List.isEmpty_iff.mp hempty, List.nil_append]
    · rfl
  unfold splitScheme
  simp only [hdrop]
  cases hcs : cs.dropWhile isSchemeChar with
  | nil => exact ⟨cs, rfl, List.Subset.refl cs⟩
  | cons c tail =>
    have htail : tail ⊆ cs := fun x hx =>
      (List.dropWhile_sublist isSchemeChar).subset (hcs ▸ List.mem_cons_of_mem c hx)
    simp only [List.cons_append]
    split
    · next hcolon =>
      obtain ⟨-, rfl⟩ := List.cons.inj hcolon
      split
      · exact ⟨tail, rfl, htail⟩
      · exact ⟨cs, rfl, List.Subset.refl cs⟩
    · exact ⟨cs, rfl, List.Subset.refl cs⟩

/-- So does an authority, and the path of the interface adds no at sign to it. -/
theorem at_notMem_splitAuthority (h : '@' ∉ cs) (rest : List Char) :
    '@' ∉ (splitAuthority (cs ++ '/' :: 'a' :: 'p' :: 'i' :: '/' :: rest)).1 := by
  unfold splitAuthority
  intro hat
  simp only at hat
  split at hat
  · next behind heq =>
    match cs with
    | [] => cases heq
    -- the second slash is the one in front of the path
    | [_] =>
      obtain rfl : 'a' :: 'p' :: 'i' :: '/' :: rest = behind := (List.cons.inj (List.cons.inj heq).2).2
      exact absurd hat (show '@' ∉ ['a', 'p', 'i'] by decide)
    | _ :: _ :: tail =>
      obtain rfl : tail ++ '/' :: 'a' :: 'p' :: 'i' :: '/' :: rest = behind :=
        (List.cons.inj (List.cons.inj heq).2).2
      rw [List.takeWhile_append, List.takeWhile_cons_of_neg (by decide), List.append_nil] at hat
      have hmem : '@' ∈ tail := by
        split at hat
        · exact hat
        · exact (List.takeWhile_sublist _).subset hat
      exact h (List.mem_cons_of_mem _ (List.mem_cons_of_mem _ hmem))
  · exact List.not_mem_nil hat

theorem splitLast_eq_nil {c : Char} (h : c ∉ cs) : (splitLast c cs).1 = [] := by
  have hnone : cs.reverse.dropWhile (· != c) = [] :=
    List.dropWhile_eq_nil_iff.mpr fun x hx => by
      simpa using fun heq : x = c => h (heq ▸ List.mem_reverse.mp hx)
  rw [splitLast]
  simp only [hnone]

/-- Without an at sign in the host, there is no user. -/
theorem userinfo_parts (h : '@' ∉ cs) (rest : List Char) :
    (parts (cs ++ '/' :: 'a' :: 'p' :: 'i' :: '/' :: rest)).userinfo = [] := by
  obtain ⟨cs', hscheme, hsub⟩ := splitScheme_append cs ('a' :: 'p' :: 'i' :: '/' :: rest)
  have hauthority := at_notMem_splitAuthority (fun hmem => h (hsub hmem)) rest
  rw [← hscheme] at hauthority
  exact splitLast_eq_nil hauthority

end Target

/-- **A host without an at sign names no user.** -/
theorem Userinfo.ofUrl?_eq_none {host : String} (h : '@' ∉ host.toList) (rest : String) :
    ofUrl? (host ++ "/api/" ++ rest) = none := by
  have hparts : (Target.parts (host ++ "/api/" ++ rest).toList).userinfo = [] := by
    rw [String.toList_append, String.toList_append, List.append_assoc]
    exact Target.userinfo_parts h rest.toList
  rw [ofUrl?, hparts]
  rfl

end Workspace.Http
