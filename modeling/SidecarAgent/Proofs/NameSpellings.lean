import Mathlib.Logic.Basic
import SidecarAgent.Discovery.ResourceName
import SidecarAgent.Proofs.Texts

/-!
# Spellings of cluster names

A text reads as a cluster's name when it is a spelling of a well-formed name: its written form of
four segments or, if it has no subset, the shorter form that leaves the segment of the subset out
(`parse?_eq_some_iff`).  So the written form of every name that was read reads as the name again,
and a name with a subset has one spelling only.
-/

namespace SidecarAgent.Discovery

open Text (splitOn_eq_iff)

/-- A text is a direction when it is the word for it. -/
theorem Direction.ofText?_eq_some_iff {s : String} {d : Direction} :
    ofText? s = some d ↔ s = d.text := by
  constructor
  · intro h
    unfold ofText? at h
    split at h
    · rename_i hs
      cases h
      exact hs
    · split at h
      · rename_i hs
        cases h
        exact hs
      · cases h
  · rintro rfl
    exact ofText?_text d

/-- The word for a direction has no bar. -/
theorem Direction.bar_not_mem_text (d : Direction) : '|' ∉ d.text.toList := by
  cases d <;> decide

namespace ResourceName

/-! ## Well-formed names -/

/-- A domain name begins with two labels, neither of which is empty: it is the two labels with a dot
between them, and either it ends there or another dot follows. -/
structure BeginsWith (fqdn service space : String) : Prop where
  nonempty : service ≠ "" ∧ space ≠ ""
  dotless : '.' ∉ service.toList ∧ '.' ∉ space.toList
  written : fqdn = service ++ "." ++ space ∨ ∃ rest, fqdn = service ++ "." ++ space ++ "." ++ rest

/-- A name is well formed when it has a port, its segments have no bars, and its service and its
namespace are the first two labels of its domain name. -/
structure WellFormed (name : ResourceName) : Prop where
  hasPort : name.port ≠ ""
  barless : '|' ∉ name.port.toList ∧ '|' ∉ name.subset.toList ∧ '|' ∉ name.fqdn.toList
  labels : BeginsWith name.fqdn name.service name.namespaceName

/-- The shorter form of a name, without the segment of the subset. -/
def shortText (name : ResourceName) : String :=
  String.intercalate "|" [name.direction.text, name.port, name.fqdn]

/-- A text spells a name when it is its written form or, if it has no subset, its shorter form. -/
def SpelledBy (name : ResourceName) (text : String) : Prop :=
  text = name.text ∨ name.subset = "" ∧ text = name.shortText

/-- The first two pieces of a domain name are the labels that it begins with. -/
theorem exists_splitOn_iff {fqdn service space : String} :
    (∃ rest, fqdn.toList.splitOn '.' = service.toList :: space.toList :: rest) ↔
      ('.' ∉ service.toList ∧ '.' ∉ space.toList) ∧ (fqdn = service ++ "." ++ space ∨
        ∃ rest, fqdn = service ++ "." ++ space ++ "." ++ rest) := by
  constructor
  · rintro ⟨rest, hsplit⟩
    obtain ⟨-, hclear, htext⟩ := splitOn_eq_iff.1 hsplit
    refine ⟨⟨hclear _ (by simp), hclear _ (by simp)⟩, ?_⟩
    cases rest with
    | nil =>
      left
      rw [← String.toList_inj, htext]
      simp [List.intercalate_cons_cons]
    | cons third others =>
      right
      refine ⟨String.ofList (['.'].intercalate (third :: others)), ?_⟩
      rw [← String.toList_inj, htext]
      simp [List.intercalate_cons_cons]
  · rintro ⟨⟨hservice, hspace⟩, rfl | ⟨rest, rfl⟩⟩
    · refine ⟨[], splitOn_eq_iff.2 ⟨by simp, ?_, ?_⟩⟩
      · simp [hservice, hspace]
      · simp [List.intercalate_cons_cons]
    · -- the rest may have dots of its own, which cut it further
      refine ⟨rest.toList.splitOn '.', ?_⟩
      have htext : (service ++ "." ++ space ++ "." ++ rest).toList
          = service.toList ++ '.' :: (space.toList ++ '.' :: rest.toList) := by simp
      rw [htext, List.splitOn_append_cons_self_of_not_mem hservice,
        List.splitOn_append_cons_self_of_not_mem hspace]

/-! ## Reading -/

/-- The segments that a name is put together from are its own, if the port is not empty and the
domain name begins with the service and the namespace. -/
theorem ofSegments?_eq_some_iff {direction port subset fqdn : List Char} {name : ResourceName} :
    ofSegments? direction port subset fqdn = some name ↔
      (direction = name.direction.text.toList ∧ port = name.port.toList ∧
        subset = name.subset.toList ∧ fqdn = name.fqdn.toList) ∧
      name.port ≠ "" ∧ BeginsWith name.fqdn name.service name.namespaceName := by
  constructor
  · intro h
    unfold ofSegments? at h
    split at h
    · rename_i d service space rest hdirection hlabels
      split at h
      · cases h
      · rename_i hfilled
        cases h
        simp only [Bool.or_eq_true, List.isEmpty_iff, not_or] at hfilled
        obtain ⟨⟨hport, hservice⟩, hspace⟩ := hfilled
        have hbegins := exists_splitOn_iff.1 (⟨rest, by simpa using hlabels⟩ :
          ∃ rest, (String.ofList fqdn).toList.splitOn '.'
            = (String.ofList service).toList :: (String.ofList space).toList :: rest)
        refine ⟨⟨?_, by simp⟩, by simpa using hport, ⟨by simpa using ⟨hservice, hspace⟩,
          hbegins.1, hbegins.2⟩⟩
        rw [← Direction.ofText?_eq_some_iff.1 hdirection, String.toList_ofList]
    · cases h
  · rintro ⟨⟨rfl, rfl, rfl, rfl⟩, hport, hbegins⟩
    obtain ⟨rest, hlabels⟩ := exists_splitOn_iff.2 ⟨hbegins.dotless, hbegins.written⟩
    have hfilled : ¬ (name.port.toList.isEmpty || name.service.toList.isEmpty
        || name.namespaceName.toList.isEmpty) = true := by
      simpa using ⟨⟨hport, hbegins.nonempty.1⟩, hbegins.nonempty.2⟩
    unfold ofSegments?
    rw [hlabels, String.ofList_toList, Direction.ofText?_text]
    simp only [if_neg hfilled, String.ofList_toList]

/-- The segments of a text are texts without bars that it is written with, with bars between them.
-/
theorem segments_eq_iff (text : String) (segments : List String) :
    text.toList.splitOn '|' = segments.map String.toList ↔
      segments ≠ [] ∧ (∀ segment ∈ segments, '|' ∉ segment.toList) ∧
        text = String.intercalate "|" segments := by
  rw [splitOn_eq_iff, ← String.toList_inj, String.toList_intercalate]
  simp

/-- A text is the written form of a name whose segments have no bars when it has the four segments.
-/
theorem segments_eq_four_iff {text : String} {name : ResourceName} :
    text.toList.splitOn '|' = [name.direction.text.toList, name.port.toList, name.subset.toList,
        name.fqdn.toList] ↔
      ('|' ∉ name.port.toList ∧ '|' ∉ name.subset.toList ∧ '|' ∉ name.fqdn.toList) ∧
        text = name.text := by
  have h := segments_eq_iff text [name.direction.text, name.port, name.subset, name.fqdn]
  simpa [name.direction.bar_not_mem_text, ResourceName.text] using h

/-- A text is the shorter form of a name whose segments have no bars when it has the other three. -/
theorem segments_eq_three_iff {text : String} {name : ResourceName} :
    text.toList.splitOn '|' = [name.direction.text.toList, name.port.toList, name.fqdn.toList] ↔
      ('|' ∉ name.port.toList ∧ '|' ∉ name.fqdn.toList) ∧ text = name.shortText := by
  have h := segments_eq_iff text [name.direction.text, name.port, name.fqdn]
  simpa [name.direction.bar_not_mem_text, shortText] using h

/-- A text reads as a name when it is a spelling of it, and the name is well formed. -/
theorem parse?_eq_some_iff {text : String} {name : ResourceName} :
    parse? text = some name ↔ name.WellFormed ∧ name.SpelledBy text := by
  constructor
  · intro h
    unfold parse? at h
    split at h
    · rename_i direction port subset fqdn hsegments
      obtain ⟨⟨rfl, rfl, rfl, rfl⟩, hport, hlabels⟩ := ofSegments?_eq_some_iff.1 h
      obtain ⟨hbarless, htext⟩ := segments_eq_four_iff.1 hsegments
      exact ⟨⟨hport, hbarless, hlabels⟩, Or.inl htext⟩
    · -- what was read for the subset is empty, so that the name has none
      rename_i direction port fqdn hsegments
      obtain ⟨⟨rfl, rfl, hsubset, rfl⟩, hport, hlabels⟩ := ofSegments?_eq_some_iff.1 h
      obtain ⟨⟨hport', hfqdn⟩, htext⟩ := segments_eq_three_iff.1 hsegments
      have hclear : '|' ∉ name.subset.toList := by
        rw [← hsubset]
        exact List.not_mem_nil
      exact ⟨⟨hport, ⟨hport', hclear, hfqdn⟩, hlabels⟩,
        Or.inr ⟨String.toList_eq_nil_iff.1 hsubset.symm, htext⟩⟩
    · cases h
  · rintro ⟨⟨hport, hbarless, hlabels⟩, htext | ⟨hsubset, htext⟩⟩
    · unfold parse?
      rw [segments_eq_four_iff.2 ⟨hbarless, htext⟩]
      exact ofSegments?_eq_some_iff.2 ⟨⟨rfl, rfl, rfl, rfl⟩, hport, hlabels⟩
    · unfold parse?
      rw [segments_eq_three_iff.2 ⟨⟨hbarless.1, hbarless.2.2⟩, htext⟩]
      exact ofSegments?_eq_some_iff.2
        ⟨⟨rfl, rfl, (String.toList_eq_nil_iff.2 hsubset).symm, rfl⟩, hport, hlabels⟩

/-! ## Writing -/

variable {s t text : String} {name : ResourceName}

/-- A name that was read is well formed, so its written form reads as the name. -/
theorem parse?_text (h : parse? text = some name) : parse? name.text = some name :=
  parse?_eq_some_iff.2 ⟨(parse?_eq_some_iff.1 h).1, Or.inl rfl⟩

/-- What reads as a name has four segments, and is its written form, or has three, and is the
shorter form of a name without a subset. -/
theorem spelling_cases (h : parse? text = some name) :
    (text.toList.splitOn '|' = [name.direction.text.toList, name.port.toList, name.subset.toList,
        name.fqdn.toList] ∧ text = name.text) ∨
      (text.toList.splitOn '|' = [name.direction.text.toList, name.port.toList, name.fqdn.toList] ∧
        name.subset = "" ∧ text = name.shortText) := by
  obtain ⟨hwell, htext | ⟨hsubset, htext⟩⟩ := parse?_eq_some_iff.1 h
  · exact Or.inl ⟨segments_eq_four_iff.2 ⟨hwell.barless, htext⟩, htext⟩
  · exact Or.inr ⟨segments_eq_three_iff.2 ⟨⟨hwell.barless.1, hwell.barless.2.2⟩, htext⟩,
      hsubset, htext⟩

/-- A text of four segments that reads as a name is the name's written form. -/
theorem text_eq_of_four (h : parse? text = some name)
    (hfour : (text.toList.splitOn '|').length = 4) :
    name.text = text := by
  rcases spelling_cases h with ⟨-, htext⟩ | ⟨hsegments, -, -⟩
  · exact htext.symm
  · rw [hsegments] at hfour
    cases hfour

/-- The written form of a name that was read from three segments has an empty one before the last.
-/
theorem segments_text_of_three {direction port fqdn : List Char} (h : parse? text = some name)
    (hthree : text.toList.splitOn '|' = [direction, port, fqdn]) :
    name.text.toList.splitOn '|' = [direction, port, [], fqdn] := by
  rcases spelling_cases h with ⟨hsegments, -⟩ | ⟨hsegments, hsubset, -⟩
  · rw [hsegments] at hthree
    cases hthree
  · rw [hsegments] at hthree
    cases hthree
    rw [segments_eq_four_iff.2 ⟨(parse?_eq_some_iff.1 h).1.barless, rfl⟩, hsubset,
      String.toList_empty]

/-- Two texts that read as one name are equal, or they are its two forms, and it has no subset. -/
theorem eq_or_two_forms (hs : parse? s = some name) (ht : parse? t = some name) :
    s = t ∨ name.subset = "" ∧
      (s = name.text ∧ t = name.shortText ∨ s = name.shortText ∧ t = name.text) := by
  rcases spelling_cases hs with ⟨-, hs⟩ | ⟨-, hsubset, hs⟩ <;>
    rcases spelling_cases ht with ⟨-, ht⟩ | ⟨-, hsubset', ht⟩
  · exact Or.inl (hs.trans ht.symm)
  · exact Or.inr ⟨hsubset', Or.inl ⟨hs, ht⟩⟩
  · exact Or.inr ⟨hsubset, Or.inr ⟨hs, ht⟩⟩
  · exact Or.inl (hs.trans ht.symm)

/-- A text reads as a name exactly if the name is well formed and the text is one of its spellings.
The written form of a name that was read reads as the name again; it is the text that was read, with
an empty segment for the subset if the text had none.  So two texts that read as one name are its
two forms, and a name with a subset has one. -/
theorem names_read_from_spellings :
    (∀ text name, parse? text = some name ↔ name.WellFormed ∧ name.SpelledBy text) ∧
      (∀ text name, parse? text = some name →
        parse? name.text = some name ∧
        ((text.toList.splitOn '|').length = 4 → name.text = text) ∧
        ∀ direction port fqdn, text.toList.splitOn '|' = [direction, port, fqdn] →
          name.text.toList.splitOn '|' = [direction, port, [], fqdn]) ∧
      (∀ s t name, s ≠ t → parse? s = some name → parse? t = some name →
        name.subset = "" ∧
        (s = name.text ∧ t = name.shortText ∨ s = name.shortText ∧ t = name.text)) ∧
      ∀ s t name, name.hasSubset = true → parse? s = some name → parse? t = some name → t = s := by
  refine ⟨fun text name => parse?_eq_some_iff, fun text name h => ⟨parse?_text h, text_eq_of_four h,
    fun direction port fqdn => segments_text_of_three h⟩, fun s t name hne hs ht =>
    (eq_or_two_forms hs ht).resolve_left hne, fun s t name hsubset hs ht => ?_⟩
  rcases eq_or_two_forms hs ht with heq | ⟨hempty, -⟩
  · exact heq.symm
  · simp [hasSubset, hempty] at hsubset

/-- Without a subset, the segment for it may be left out, and stands empty in the written form. -/
example : (parse? "inbound|80|hello.default").map ResourceName.text =
    some "inbound|80||hello.default" := by
  decide

end ResourceName

end SidecarAgent.Discovery
