/-
# The URL of a spelled host

The same host can stand in the environment in many spellings (`IsHost.Spelling`): between blanks,
with slashes behind it, and with the default scheme in front of it if it has none.  All of them load
alike (`Settings.load_of_spelling`), down to the error if the timeout is bad, and a client built
from any of them has one URL for a path, however many slashes the path starts with
(`Client.urlFor_of_spelling`).

A host (`IsHost`) has no blank at its ends and no slash behind it, so each cut stops where it
should: the blanks around a spelling are cut without looking at what is between them
(`Text.trim_append`), the slashes are behind a character that is no slash
(`Text.trimEnd_append_slashes`), and nothing is left to cut from the base URL.

A client is not built from every environment with such a host: the timeout and the token have a say
(`Client.not_forall_spelling`).
-/
import Workspace.Proofs.Host
namespace Workspace

/-! ## 1. What is put around a text -/

namespace Text

/-- Nothing but blanks. -/
def Blank (s : String) : Prop := ∀ c ∈ s.toList, isBlank c = true

/-- A run of slashes. -/
def slashes (k : Nat) : String := String.ofList (List.replicate k '/')

/-- Blanks in front of a list and behind it are cut with those at its own ends. -/
theorem trimChars_append {front cs back : List Char} (hfront : ∀ c ∈ front, isBlank c = true)
    (hback : ∀ c ∈ back, isBlank c = true) : trimChars (front ++ cs ++ back) = trimChars cs := by
  rw [trimChars, trimChars, List.append_assoc, List.dropWhile_append_of_pos hfront,
    List.dropWhile_append]
  split
  · next hempty =>
    -- nothing but blanks is left, before and after
    rw [List.isEmpty_iff.mp hempty, List.dropWhile_eq_nil_iff.mpr hback]
  · exact dropEndWhile_append_of_forall _ hback

theorem trim_append {front back : String} (hfront : Blank front) (hback : Blank back) (s : String) :
    trim (front ++ s ++ back) = trim s := by
  rw [trim, trim, String.toList_append, String.toList_append, trimChars_append hfront hback]

/-- Slashes in front of a path are cut. -/
theorem trimStart_slashes_append (m : Nat) {p : String} (hp : p.toList.head? ≠ some '/') :
    trimStart '/' (slashes m ++ p) = p := by
  have hrun : ∀ c ∈ List.replicate m '/', (c == '/') = true :=
    fun c hc => beq_iff_eq.mpr (List.eq_of_mem_replicate hc)
  have hkept : p.toList.dropWhile (· == '/') = p.toList := by
    cases hcs : p.toList with
    | nil => rfl
    | cons c rest =>
      refine List.dropWhile_cons_of_neg fun hc => hp ?_
      rw [hcs, List.head?_cons, beq_iff_eq.mp hc]
  rw [trimStart, String.toList_append, slashes, String.toList_ofList,
    List.dropWhile_append_of_pos hrun, hkept, String.ofList_toList]

/-- Slashes behind a text are cut, and no more if it ends in no slash itself. -/
theorem trimEnd_append_slashes {s : String} (hs : s.toList.getLast? ≠ some '/') (k : Nat) :
    trimEnd '/' (s ++ slashes k) = s := by
  have hrun : ∀ c ∈ List.replicate k '/', (c == '/') = true :=
    fun c hc => beq_iff_eq.mpr (List.eq_of_mem_replicate hc)
  rw [trimEnd, String.toList_append, slashes, String.toList_ofList,
    dropEndWhile_append_of_forall _ hrun]
  exact trimEnd_eq_self hs

/-- Slashes behind a text that is not empty leave it without blanks at its ends. -/
theorem Trimmed.append_slashes {s : String} (h : Trimmed s) (hs : s ≠ "") (k : Nat) :
    Trimmed (s ++ slashes k) where
  first c hc := by
    have hne : s.toList ≠ [] := fun hnil => hs (String.toList_inj.mp hnil)
    rw [String.toList_append, List.head?_append_of_ne_nil _ hne] at hc
    exact h.first c hc
  last c hc := by
    rw [slashes, String.toList_append, String.toList_ofList, List.getLast?_append,
      Option.mem_def, Option.or_eq_some_iff] at hc
    rcases hc with hslash | ⟨-, hlast⟩
    · rw [List.eq_of_mem_replicate (List.mem_of_getLast? hslash)]
      decide
    · exact h.last c hlast

end Text

/-! ## 2. Spellings of a host -/

/-- The text of a host: it is not empty, there are no blanks around it and no slash behind it. -/
structure IsHost (h : String) : Prop where
  ne_empty : h ≠ ""
  trimmed : Text.Trimmed h
  unslashed : h.toList.getLast? ≠ some '/'

/-- A spelling of a host: blanks around it, slashes behind it, and the default scheme in front of it
if it has none. -/
inductive IsHost.Spelling (h : String) : String → Prop
  | bare {front back : String} (k : Nat) (hfront : Text.Blank front) (hback : Text.Blank back) :
      Spelling h (front ++ (h ++ Text.slashes k) ++ back)
  | secure {front back : String} (k : Nat) (hfront : Text.Blank front) (hback : Text.Blank back)
      (hscheme : ¬ HasScheme h) :
      Spelling h (front ++ ("https://" ++ h ++ Text.slashes k) ++ back)

namespace IsHost

variable {h text : String}

/-- The base URL of a host is one too. -/
theorem isHost_withScheme (hh : IsHost h) : IsHost (withScheme h) := by
  obtain ⟨c, hc⟩ : ∃ c, h.toList.getLast? = some c :=
    Option.ne_none_iff_exists'.mp (by simpa using hh.ne_empty)
  have hlast := getLast?_withScheme hc
  refine ⟨?_, ⟨head?_withScheme hh.trimmed.first, ?_⟩, ?_⟩
  · intro hempty
    rw [hempty] at hlast
    cases hlast
  · rw [hlast, ← hc]
    exact hh.trimmed.last
  · rw [hlast, ← hc]
    exact hh.unslashed

/-- **A host is read as its base URL** between blanks and with slashes behind it. -/
theorem read (hh : IsHost h) {front back : String} (k : Nat) (hfront : Text.Blank front)
    (hback : Text.Blank back) :
    Text.trim (front ++ (h ++ Text.slashes k) ++ back) ≠ "" ∧
      normalizeHost (Text.trim (front ++ (h ++ Text.slashes k) ++ back)) = withScheme h := by
  have hself := (hh.trimmed.append_slashes hh.ne_empty k).trim_eq_self
  rw [Text.trim_append hfront hback, hself]
  constructor
  · intro hempty
    exact hh.ne_empty (String.append_eq_empty_iff.mp hempty).1
  · rw [normalizeHost_eq, hself, Text.trimEnd_append_slashes hh.unslashed]

/-- Every spelling of a host is read as its base URL. -/
theorem Spelling.read (hs : Spelling h text) (hh : IsHost h) :
    Text.trim text ≠ "" ∧ normalizeHost (Text.trim text) = withScheme h := by
  cases hs with
  | bare k hfront hback => exact hh.read k hfront hback
  | secure k hfront hback hscheme =>
    -- the spelled scheme is the one that the base URL has
    have hbase := withScheme_of_not hscheme
    have hself : withScheme ("https://" ++ h) = "https://" ++ h :=
      withScheme_eq_self ⟨"https://", by decide, h, rfl⟩
    have hsecure : IsHost ("https://" ++ h) := hbase ▸ hh.isHost_withScheme
    obtain ⟨hblank, hread⟩ := hsecure.read k hfront hback
    exact ⟨hblank, hread.trans (hself.trans hbase.symm)⟩

end IsHost

/-! ## 3. One URL for all spellings -/

/-- **All spellings of a host load alike**: what an environment with one of them holds is told by
the host, the token and the timeout. -/
theorem Settings.load_of_spelling {env : Environment} {h text : String} (hh : IsHost h)
    (hs : IsHost.Spelling h text) (henv : env.host = some text) :
    load env = (timeoutOf env.timeout).map fun timeout =>
      ⟨withScheme h, nonEmpty? env.token, timeout⟩ := by
  obtain ⟨hblank, hbase⟩ := hs.read hh
  have hempty : (Text.trim text).isEmpty = false := by
    rw [Bool.eq_false_iff, ne_eq, String.isEmpty_iff]
    exact hblank
  simp only [load, henv, Option.getD_some, hempty, Bool.false_eq_true, if_false, hbase]
  cases timeoutOf env.timeout with
  | error e => rfl
  | ok timeout => rfl

namespace Client

variable {env : Environment} {h text : String}

theorem host_of_spelling {c : Client} (hh : IsHost h) (hs : IsHost.Spelling h text)
    (henv : env.host = some text) (hc : ofEnvironment env = .ok c) : c.host = withScheme h := by
  obtain ⟨s, hload, rfl⟩ := exists_settings hc
  obtain ⟨-, hbase⟩ := hs.read hh
  have hhost : s.host = withScheme h := by
    rw [Settings.host_of_load hload, henv, Option.getD_some, hbase]
  rw [hhost]
  exact Text.trimEnd_eq_self hh.isHost_withScheme.unslashed

/-- **The spelling of a host and the slashes in front of a path make no difference to a URL**: all
spellings of a host load alike, and a client for any of them puts the path behind the base URL of the
host and the version of the interface.  There is such a client if the environment holds no bad timeout
and no token outside ASCII. -/
theorem urlFor_of_spelling (hh : IsHost h) (hs : IsHost.Spelling h text)
    (henv : env.host = some text) :
    (Settings.load env = (Settings.timeoutOf env.timeout).map fun timeout =>
      ⟨withScheme h, nonEmpty? env.token, timeout⟩) ∧
    (∀ c, ofEnvironment env = .ok c → ∀ (m : Nat) (p v : String), p.toList.head? ≠ some '/' →
      c.urlFor (Text.slashes m ++ p) v = withScheme h ++ "/api/" ++ v ++ "/" ++ p) ∧
    ((∀ seconds ∈ env.timeout, seconds = "" ∨
        ∃ x, Binary64.ofText? seconds = some x ∧ x.isPositive = true) →
      (∀ token ∈ env.token, ∀ ch ∈ token.toList, ch.toNat < 128) →
      ∃ c, ofEnvironment env = .ok c) := by
  refine ⟨Settings.load_of_spelling hh hs henv, ?_, ?_⟩
  · intro c hc m p v hp
    rw [urlFor, host_of_spelling hh hs henv hc, Text.trimStart_slashes_append m hp]
  · intro htimeout htoken
    -- with such a host only the timeout and the token can keep a client from being built
    have hvalid : env.Valid :=
      { host := by
          rw [henv, Option.getD_some]
          exact (hs.read hh).1
        timeout := htimeout
        token := htoken }
    exact hvalid.exists_client

/-! ### A host between blanks and slashes -/

namespace Endpoint

/-- An environment with a host behind the default scheme, between blanks and slashes. -/
def wide : Environment := ⟨some "\t https://localhost// \n", none, some "30"⟩

theorem isHost : IsHost "localhost" :=
  have htrim : Text.trim "localhost" = "localhost" := by decide +kernel
  ⟨by decide, htrim ▸ Text.trimmed_trim "localhost", by decide⟩

theorem spelling : IsHost.Spelling "localhost" "\t https://localhost// \n" := by
  have htext : "\t https://localhost// \n" =
      "\t " ++ ("https://" ++ "localhost" ++ Text.slashes 2) ++ " \n" := by
    decide +kernel
  rw [htext]
  have hfront : Text.Blank "\t " := List.all_eq_true.mp (by decide +kernel)
  have hback : Text.Blank " \n" := List.all_eq_true.mp (by decide +kernel)
  exact .secure 2 hfront hback (startsWith_scheme_iff.not.mp (by decide +kernel))

/-- An environment with a timeout that is no number. -/
def untimed : Environment := ⟨some "localhost", none, some "soon"⟩

end Endpoint

/-- A client for that host has its URLs. -/
theorem urlFor_of_spelling_wide :
    IsHost "localhost" ∧ IsHost.Spelling "localhost" "\t https://localhost// \n" ∧
      ∃ c, ofEnvironment Endpoint.wide = .ok c ∧
        c.urlFor (Text.slashes 2 ++ "workspace/list") "2.0" =
          "https://localhost/api/2.0/workspace/list" := by
  have henv : Endpoint.wide.host = some "\t https://localhost// \n" := rfl
  obtain ⟨-, hurl, hclient⟩ := urlFor_of_spelling Endpoint.isHost Endpoint.spelling henv
  have hseconds : ∃ x, Binary64.ofText? "30" = some x ∧ x.isPositive = true :=
    (Option.any_eq_true _ _).mp (by decide +kernel)
  obtain ⟨c, hc⟩ := hclient (by rintro _ ⟨⟩; exact .inr hseconds) (by rintro _ ⟨⟩)
  refine ⟨Endpoint.isHost, Endpoint.spelling, c, hc, ?_⟩
  rw [hurl c hc 2 "workspace/list" "2.0" (by decide +kernel)]
  decide +kernel

/-- Not every environment with such a host gives a client: a timeout that is no number is
refused. -/
theorem not_forall_spelling :
    ¬ ∀ (env : Environment) (h text : String), IsHost h → IsHost.Spelling h text →
        env.host = some text →
      ∃ c, ofEnvironment env = .ok c ∧ ∀ (m : Nat) (p v : String), p.toList.head? ≠ some '/' →
        c.urlFor (Text.slashes m ++ p) v = withScheme h ++ "/api/" ++ v ++ "/" ++ p := by
  intro hall
  have hnothing : Text.Blank "" := fun _ hc => by cases hc
  have hself : IsHost.Spelling "localhost" "localhost" := .bare 0 hnothing hnothing
  obtain ⟨c, hc, -⟩ := hall Endpoint.untimed "localhost" "localhost" Endpoint.isHost hself rfl
  have hnone : (ofEnvironment Endpoint.untimed).toOption = none := by decide +kernel
  rw [hc] at hnone
  cases hnone

end Client

end Workspace
