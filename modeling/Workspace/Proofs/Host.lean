/-
# The host of a connection

The host in the settings of a connection is in normal form: to read it once more changes nothing, and
the client takes it as it is.  That is so if the environment names a host
(`Environment.NamesHost`), which means that something is left of its text without the blanks around it
and then without the slashes behind it, and that this does not end in a blank again.  Otherwise it is
not so (`Settings.normal_iff_of_load`): slashes alone become a base URL without a host, and a blank in
front of the slashes stays at the end.

Blanks and slashes are cut from the text of the environment in one order and only once, so the cuts are
looked at one by one: what each of them leaves has a first and a last character that are not to be cut
(`Text.head?_trimChars`, `Text.getLast?_dropEndWhile`), and a text with such characters is left as it is
(`Text.trim_eq_self`, `Text.trimEnd_eq_self`).
-/
import Mathlib
import Workspace.Proofs.Building
namespace Workspace

/-! ## 1. What a cut leaves -/

namespace Text

section Cuts

variable {α : Type} {p : α → Bool} {xs : List α}

theorem getLast?_dropEndWhile {x : α} (h : x ∈ (dropEndWhile p xs).getLast?) : p x = false := by
  have hhead := List.head?_dropWhile_not p xs.reverse
  rw [dropEndWhile, List.getLast?_reverse] at h
  rw [h] at hhead
  exact hhead

theorem head?_of_head?_dropEndWhile {x : α} (h : x ∈ (dropEndWhile p xs).head?) : x ∈ xs.head? := by
  obtain ⟨run, hrun, -⟩ := exists_append_dropEndWhile p xs
  rw [hrun, List.head?_append, Option.mem_def.mp h]
  rfl

theorem dropEndWhile_eq_self (h : ∀ x ∈ xs.getLast?, p x = false) : dropEndWhile p xs = xs := by
  rcases xs.eq_nil_or_concat with rfl | ⟨ys, y, rfl⟩
  · rfl
  · rw [List.concat_eq_append] at h ⊢
    exact dropEndWhile_append_singleton ys (h y (by simp))

end Cuts

theorem head?_trimChars {cs : List Char} {c : Char} (h : c ∈ (trimChars cs).head?) :
    isBlank c = false := by
  have hhead := List.head?_dropWhile_not isBlank cs
  rw [Option.mem_def.mp (head?_of_head?_dropEndWhile h)] at hhead
  exact hhead

theorem trimChars_eq_self {cs : List Char} (hhead : ∀ c ∈ cs.head?, isBlank c = false)
    (hlast : ∀ c ∈ cs.getLast?, isBlank c = false) : trimChars cs = cs := by
  have hstart : cs.dropWhile isBlank = cs := by
    cases cs with
    | nil => rfl
    | cons c rest => exact List.dropWhile_cons_of_neg (by simp [hhead c rfl])
  rw [trimChars, hstart, dropEndWhile_eq_self hlast]

/-- A text with no blank at its ends. -/
structure Trimmed (s : String) : Prop where
  first : ∀ c ∈ s.toList.head?, isBlank c = false
  last : ∀ c ∈ s.toList.getLast?, isBlank c = false

theorem trimmed_trim (s : String) : Trimmed (trim s) where
  first c hc := head?_trimChars (by simpa [trim] using hc)
  last c hc := getLast?_dropEndWhile (by simpa [trim, trimChars] using hc)

theorem Trimmed.trim_eq_self {s : String} (h : Trimmed s) : trim s = s := by
  rw [trim, trimChars_eq_self h.first h.last, String.ofList_toList]

theorem trimEnd_eq_self {c : Char} {s : String} (h : s.toList.getLast? ≠ some c) : trimEnd c s = s := by
  rw [trimEnd, dropEndWhile_eq_self, String.ofList_toList]
  intro x hx
  exact beq_false_of_ne fun heq => h (heq ▸ hx)

end Text

/-! ## 2. Base URLs -/

/-- The schemes of a base URL. -/
def schemes : List String := ["http://", "https://"]

/-- A text behind one of the schemes that is not empty. -/
def HasHost (url : String) : Prop := ∃ scheme ∈ schemes, ∃ rest, rest ≠ "" ∧ url = scheme ++ rest

/-- A text that stands behind one of the schemes, and may be empty there. -/
def HasScheme (text : String) : Prop := ∃ scheme ∈ schemes, ∃ rest, text = scheme ++ rest

theorem HasHost.hasScheme {url : String} (h : HasHost url) : HasScheme url := by
  obtain ⟨scheme, hmem, rest, -, heq⟩ := h
  exact ⟨scheme, hmem, rest, heq⟩

/-- The text as a base URL: a text without scheme comes to stand behind one. -/
def withScheme (text : String) : String :=
  if text.startsWith "http://" || text.startsWith "https://" then text else "https://" ++ text

theorem normalizeHost_eq (host : String) :
    normalizeHost host = withScheme (Text.trimEnd '/' (Text.trim host)) := rfl

/-- What starts with a scheme has one. -/
theorem startsWith_scheme_iff {text : String} :
    (text.startsWith "http://" || text.startsWith "https://") = true ↔ HasScheme text := by
  have hprefix (scheme : String) : text.startsWith scheme = true ↔ ∃ rest, text = scheme ++ rest := by
    rw [String.startsWith_string_iff]
    constructor
    · rintro ⟨rest, hrest⟩
      exact ⟨String.ofList rest, String.toList_inj.mp (by simp [hrest])⟩
    · rintro ⟨rest, rfl⟩
      exact ⟨rest.toList, by simp⟩
  simp [HasScheme, schemes, hprefix]

theorem withScheme_eq_self {text : String} (h : HasScheme text) :
    withScheme text = text := by
  rw [withScheme, if_pos (startsWith_scheme_iff.mpr h)]

theorem withScheme_of_not {text : String} (h : ¬ HasScheme text) :
    withScheme text = "https://" ++ text := by
  rw [withScheme, if_neg (fun hstarts => h (startsWith_scheme_iff.mp hstarts))]

theorem getLast?_scheme : ∀ scheme ∈ schemes, scheme.toList.getLast? = some '/' := by decide

theorem getLast?_withScheme {text : String} {c : Char} (h : text.toList.getLast? = some c) :
    (withScheme text).toList.getLast? = some c := by
  by_cases hscheme : HasScheme text
  · rw [withScheme_eq_self hscheme, h]
  · rw [withScheme_of_not hscheme, String.toList_append, List.getLast?_append, h]
    rfl

/-- A base URL has a host, if its text does not end in a slash. -/
theorem hasHost_withScheme {text : String} {c : Char} (h : text.toList.getLast? = some c)
    (hc : c ≠ '/') : HasHost (withScheme text) := by
  have hne : text ≠ "" := by
    rintro rfl
    cases h
  by_cases hscheme : HasScheme text
  · obtain ⟨scheme, hmem, rest, rfl⟩ := hscheme
    refine ⟨scheme, hmem, rest, ?_, withScheme_eq_self ⟨scheme, hmem, rest, rfl⟩⟩
    -- a scheme alone would end in a slash
    rintro rfl
    rw [String.append_empty, getLast?_scheme scheme hmem] at h
    exact hc (Option.some.inj h).symm
  · exact ⟨"https://", by decide, text, hne, withScheme_of_not hscheme⟩

theorem head?_withScheme {text : String} (h : ∀ c ∈ text.toList.head?, Text.isBlank c = false) :
    ∀ c ∈ (withScheme text).toList.head?, Text.isBlank c = false := by
  by_cases hscheme : HasScheme text
  · rw [withScheme_eq_self hscheme]
    exact h
  · rw [withScheme_of_not hscheme, String.toList_append]
    rintro c ⟨⟩
    decide

/-! ## 3. Settings -/

/-- The text of the host in an environment, without the blanks around it and then without the slashes
behind it. -/
def Environment.bareHost (env : Environment) : String :=
  Text.trimEnd '/' (Text.trim (env.host.getD ""))

theorem Environment.toList_bareHost (env : Environment) :
    env.bareHost.toList = Text.dropEndWhile (· == '/') (Text.trim (env.host.getD "")).toList :=
  String.toList_ofList

/-- The environment names a host: something is left of its text, and does not end in a blank. -/
def Environment.NamesHost (env : Environment) : Prop :=
  ∃ c, env.bareHost.toList.getLast? = some c ∧ Text.isBlank c = false

namespace Settings

/-- The host of the settings is in normal form. -/
structure Normal (s : Settings) : Prop where
  fixed : normalizeHost s.host = s.host
  trimmed : Text.Trimmed s.host
  unslashed : s.host.toList.getLast? ≠ some '/'
  hasHost : HasHost s.host
  /-- A client for the settings has the very host. -/
  client : ∀ c, Client.ofSettings s = .ok c → c.host = s.host
  /-- There is a client for the settings, if the token is ASCII or absent. -/
  built : (∀ t ∈ s.token, ∀ ch ∈ t.toList, ch.toNat < 128) → ∃ c, Client.ofSettings s = .ok c

variable {env : Environment} {s : Settings}

theorem host_eq_withScheme (h : load env = .ok s) : s.host = withScheme env.bareHost := by
  rw [host_of_load h, normalizeHost_eq, (Text.trimmed_trim _).trim_eq_self]
  rfl

/-- **A host in normal form** is one that has a host, no blank at its ends and no slash behind it. -/
theorem normal_of_trimmed (htrimmed : Text.Trimmed s.host) (hslash : s.host.toList.getLast? ≠ some '/')
    (hhost : HasHost s.host) : s.Normal where
  fixed := by
    rw [normalizeHost_eq, htrimmed.trim_eq_self, Text.trimEnd_eq_self hslash]
    exact withScheme_eq_self hhost.hasScheme
  trimmed := htrimmed
  unslashed := hslash
  hasHost := hhost
  client c hc := by
    rw [Client.eq_of_build hc]
    exact Text.trimEnd_eq_self hslash
  built hascii := ⟨_, Client.build_of_ascii hascii s.host s.timeout⟩

/-- The host that an environment names is in normal form. -/
theorem normal_of_namesHost (h : load env = .ok s) (hnames : env.NamesHost) : s.Normal := by
  obtain ⟨c, hlast, hblank⟩ := hnames
  have hhost := host_eq_withScheme h
  have hend : s.host.toList.getLast? = some c := hhost ▸ getLast?_withScheme hlast
  -- the slashes at the end were cut, so the last character is none
  have hslash : c ≠ '/' := by
    rw [env.toList_bareHost] at hlast
    have hcut := Text.getLast?_dropEndWhile (Option.mem_def.mpr hlast)
    exact fun heq => by simp [heq] at hcut
  refine normal_of_trimmed ⟨?_, ?_⟩ ?_ ?_
  · rw [hhost]
    refine head?_withScheme fun d hd => ?_
    rw [env.toList_bareHost] at hd
    exact (Text.trimmed_trim _).first d (Text.head?_of_head?_dropEndWhile hd)
  · rintro d hd
    cases hend.symm.trans hd
    exact hblank
  · rw [hend]
    exact fun heq => hslash (Option.some.inj heq)
  · exact hhost ▸ hasHost_withScheme hlast hslash

/-- **The host of loaded settings is in normal form if and only if the environment names a host.** -/
theorem normal_iff_of_load (h : load env = .ok s) : s.Normal ↔ env.NamesHost := by
  refine ⟨fun hnormal => ?_, normal_of_namesHost h⟩
  have hhost := host_eq_withScheme h
  cases hlast : env.bareHost.toList.getLast? with
  | none =>
    -- nothing is left of the text, and the scheme ends in a slash
    have hempty : env.bareHost = "" := by
      simpa using hlast
    rw [hempty] at hhost
    exact absurd (by rw [hhost]; decide +kernel) hnormal.unslashed
  | some c =>
    exact ⟨c, hlast, hnormal.trimmed.last c (hhost ▸ getLast?_withScheme hlast)⟩

/-- Slashes alone become a scheme without a host. -/
example : normalizeHost "//" = "https://" := by decide +kernel

/-! ### Spellings of a host -/

namespace Spelling

/-- An environment with nothing but a host. -/
def environment (host : String) : Environment := ⟨some host, none, none⟩

/-- A host between blanks and slashes. -/
def wide : Environment := environment "\t http://localhost:8080// \n"

/-- The settings with the host of that environment. -/
def settings : Settings := ⟨"http://localhost:8080", none, defaultTimeout⟩

theorem load_wide : load wide = .ok settings :=
  toOption_eq_some_iff.mp (by decide +kernel)

/-- A host with a blank in front of its slash. -/
def torn : Environment := environment "x /"

theorem load_torn : load torn = .ok ⟨"https://x ", none, defaultTimeout⟩ :=
  toOption_eq_some_iff.mp (by decide +kernel)

end Spelling

/-- A host between blanks and slashes is loaded in normal form, and names one. -/
theorem normal_iff_of_load_wide :
    load Spelling.wide = .ok Spelling.settings ∧ Spelling.wide.NamesHost ∧
      Spelling.settings.Normal := by
  have hnames : Spelling.wide.NamesHost := ⟨'0', by decide +kernel, by decide⟩
  exact ⟨Spelling.load_wide, hnames, (normal_iff_of_load Spelling.load_wide).mpr hnames⟩

/-- Not every host that is loaded is in normal form: a blank in front of a slash is not cut. -/
theorem not_forall_normal : ¬ ∀ (env : Environment) (s : Settings), load env = .ok s → s.Normal := by
  intro h
  have hblank := (h _ _ Spelling.load_torn).trimmed.last ' ' (by decide)
  cases hblank

end Settings

end Workspace
