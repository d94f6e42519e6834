import CaseRouting.Proofs.Text.Lowering
import CaseRouting.TestCase.Filter

/-!
# Search by a part of the title

A search for a part of the title in any case of letters. A title may hold the text that is asked for
and still not be found: a capital sigma at the end of that text is lower-cased to its final form,
and within a longer word it is not. Such texts are told apart exactly.
-/

namespace CaseRouting.Filter

open Text

variable {c : TestCase} {cs : List TestCase} {needle : String}

def titled (needle : String) : Filter := ⟨none, none, some needle, none⟩

theorem fits_titled_iff :
    (titled needle).fits c = true ↔ (lower needle).toList <:+: (lower c.title).toList := by
  simp only [fits, statusFits, labelFits, titleFits, titled, Option.all_none, Option.all_some,
    Bool.true_and, hasInfix_iff]

theorem mem_apply_titled_iff :
    c ∈ (titled needle).apply cs ↔ c ∈ cs ∧ (titled needle).fits c = true := by
  rw [apply, cut, titled, List.mem_filter]

/-- Every case whose title holds a text is found by that text exactly if the forms of the capital
sigmas of the text are settled inside of it. Any other text is still found in a title that gives it
the same lower case as it has alone. -/
theorem mem_apply_titled_of_infix_iff (needle : String) :
    ((∀ cs : List TestCase, ∀ c ∈ cs, needle.toList <:+: c.title.toList →
        (titled needle).fits c = true ∧ c ∈ (titled needle).apply cs) ↔
      SigmasSettled needle.toList) ∧
    ∀ cs : List TestCase, ∀ c ∈ cs, ∀ p s, c.title.toList = p ++ needle.toList ++ s →
      lowerWithin p.reverse s needle.toList = (lower needle).toList →
        (titled needle).fits c = true ∧ c ∈ (titled needle).apply cs := by
  refine ⟨⟨fun h => ?_, fun h cs c hc hin => ?_⟩, fun cs c hc p s htitle hsame => ?_⟩
  · rw [← lower_infix_iff_sigmasSettled]
    intro text hin
    have hfits := (h [.draft "" text] _ List.mem_cons_self hin).1
    rwa [fits_titled_iff] at hfits
  · have hfits : (titled needle).fits c = true :=
      fits_titled_iff.mpr ((lower_infix_iff_sigmasSettled needle).mpr h _ hin)
    exact ⟨hfits, mem_apply_titled_iff.mpr ⟨hc, hfits⟩⟩
  · have hfits : (titled needle).fits c = true := by
      rw [fits_titled_iff, toList_lower_of_eq htitle, hsame]
      exact List.infix_append _ _ _
    exact ⟨hfits, mem_apply_titled_iff.mpr ⟨hc, hfits⟩⟩

/-- A text that ends with a capital sigma is found in a title where a blank follows it. -/
theorem mem_apply_titled_wholeWord :
    TestCase.draft "t1" "Η ΟΔΟΣ ΑΥΤΗ" ∈
      (titled "ΟΔΟΣ").apply [.draft "t1" "Η ΟΔΟΣ ΑΥΤΗ", .draft "t2" "ΟΔΟΣΑ"] :=
  ((mem_apply_titled_of_infix_iff "ΟΔΟΣ").2 _ _ List.mem_cons_self "Η ".toList " ΑΥΤΗ".toList
    (by decide +kernel) (by decide +kernel)).2

/-- It is not found in a longer word that begins with it. -/
theorem mem_apply_titled_of_infix_not_always :
    ¬∀ (needle : String) (cs : List TestCase), ∀ c ∈ cs, needle.toList <:+: c.title.toList →
      (titled needle).fits c = true ∧ c ∈ (titled needle).apply cs := by
  intro h
  have hin : "ΟΔΟΣ".toList <:+: "ΟΔΟΣΑ".toList := ⟨[], ['Α'], by decide +kernel⟩
  have hfits := (h "ΟΔΟΣ" [.draft "t1" "ΟΔΟΣΑ"] _ List.mem_cons_self hin).1
  exact absurd hfits (by decide +kernel)

end CaseRouting.Filter
