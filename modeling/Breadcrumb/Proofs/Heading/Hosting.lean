import Breadcrumb.Heading
import Breadcrumb.Proofs.Text.Compare
import Breadcrumb.Proofs.Text.Joining

namespace Breadcrumb.Heading

open Text

variable {site org repo : Text}

theorem reverse_dropWhile_slashes (hlast : site.getLast? ≠ some '/') (n : Nat) :
    ((site ++ List.replicate n '/').reverse.dropWhile (· = '/')).reverse = site := by
  have hslashes : ∀ c ∈ List.replicate n '/', decide (c = '/') = true := by
    intro c hc
    exact decide_eq_true (List.eq_of_mem_replicate hc)
  rw [List.reverse_append, List.reverse_replicate, List.dropWhile_append_of_pos hslashes]
  cases hsite : site.reverse with
  | nil => rw [List.dropWhile_nil, ← hsite, List.reverse_reverse]
  | cons c rest =>
    have hc : c ≠ '/' := by
      intro hc
      apply hlast
      rw [← List.head?_reverse, hsite, hc]
      rfl
    rw [List.dropWhile_cons_of_neg (by simpa using hc), ← hsite, List.reverse_reverse]

/-- The slashes behind a hosted prefix make no difference. What is left names an organisation if it
has a single slash, and then the path begins with the repository. -/
theorem link_hosted (hsite : "github.com".toList <+: site) (hlast : site.getLast? ≠ some '/')
    (n : Nat) (path : Text) :
    link ("https://".toList ++ (site ++ List.replicate n '/')) path =
      if site.count '/' = 1 then
        "https://".toList ++ site ++ "/".toList ++ ((path.cut? '/').getD (path, [])).1 ++
          "/blob/master/".toList ++ ((path.cut? '/').getD (path, [])).2
      else "https://".toList ++ site ++ "/blob/master/".toList ++ path := by
  have hstart : startsWith ("https://".toList ++ (site ++ List.replicate n '/'))
      "https://github.com".toList = true := by
    obtain ⟨rest, rfl⟩ := hsite
    rw [startsWith_iff]
    exact ⟨rest ++ List.replicate n '/', by simp⟩
  have hdrop : ("https://".toList ++ (site ++ List.replicate n '/')).drop 8 =
      site ++ List.replicate n '/' := List.drop_left' rfl
  rw [link, if_pos hstart, hdrop, reverse_dropWhile_slashes hlast]
  simp only [length_split, Nat.reduceEqDiff]

theorem getLast?_ne_slash {name : Text} (hne : name ≠ []) (hslash : '/' ∉ name) (front : Text) :
    (front ++ '/' :: name).getLast? ≠ some '/' := by
  intro hlast
  rw [List.getLast?_append, List.getLast?_cons, List.getLast?_eq_some_getLast hne] at hlast
  have hc : name.getLast hne = '/' := Option.some.inj hlast
  exact hslash (hc ▸ List.getLast_mem hne)

theorem link_organisation (hne : org ≠ []) (horg : '/' ∉ org) (hrepo : '/' ∉ repo) (m : Nat)
    (path : Text) :
    link ("https://github.com/".toList ++ org ++ List.replicate m '/') (repo ++ '/' :: path) =
      "https://github.com/".toList ++ org ++ '/' :: repo ++ "/blob/master/".toList ++ path := by
  have hsite : "github.com".toList <+: "github.com/".toList ++ org := ⟨'/' :: org, rfl⟩
  have hcount : ("github.com/".toList ++ org).count '/' = 1 := by
    rw [List.count_append, List.count_eq_zero.2 horg]
    rfl
  have hlast := getLast?_ne_slash hne horg "github.com".toList
  have hlink := link_hosted hsite hlast m (repo ++ '/' :: path)
  rw [if_pos hcount, cut?_append hrepo, Option.getD_some] at hlink
  simp only [List.append_assoc] at hlink ⊢
  exact hlink

theorem link_repository (hne : repo ≠ []) (horg : '/' ∉ org) (hrepo : '/' ∉ repo) (n : Nat)
    (path : Text) :
    link ("https://github.com/".toList ++ org ++ '/' :: repo ++ List.replicate n '/') path =
      "https://github.com/".toList ++ org ++ '/' :: repo ++ "/blob/master/".toList ++ path := by
  have hsite : "github.com".toList <+: "github.com/".toList ++ org ++ '/' :: repo :=
    ⟨'/' :: org ++ '/' :: repo, rfl⟩
  have hcount : ("github.com/".toList ++ org ++ '/' :: repo).count '/' = 2 := by
    rw [List.count_append, List.count_append, List.count_cons_self, List.count_eq_zero.2 horg,
      List.count_eq_zero.2 hrepo]
    rfl
  have hlast := getLast?_ne_slash hne hrepo ("github.com/".toList ++ org)
  have hlink := link_hosted hsite hlast n path
  rw [if_neg (by omega)] at hlink
  exact hlink

/-- Prefixes that name an organisation and a repository of it give the same links, however many
slashes stand behind them and whatever the path is. -/
theorem link_organisation_eq_repository (horg : org ≠ []) (hrepo : repo ≠ [])
    (horgSlash : '/' ∉ org) (hrepoSlash : '/' ∉ repo) (path : Text) (m n : Nat) :
    link ("https://github.com/".toList ++ org ++ List.replicate m '/') (repo ++ '/' :: path) =
        link ("https://github.com/".toList ++ org ++ '/' :: repo ++ List.replicate n '/') path ∧
      link ("https://github.com/".toList ++ org ++ '/' :: repo ++ List.replicate n '/') path =
        "https://github.com/".toList ++ org ++ '/' :: repo ++ "/blob/master/".toList ++ path := by
  have hlink := link_repository hrepo horgSlash hrepoSlash n path
  have hsame := link_organisation horg horgSlash hrepoSlash m path
  exact ⟨hsame.trans hlink.symm, hlink⟩

theorem link_organisation_eq_repository_rooted :
    link "https://github.com/acme".toList "demo//cmd/".toList =
        link "https://github.com/acme/demo///".toList "/cmd/".toList ∧
      link "https://github.com/acme/demo///".toList "/cmd/".toList =
        "https://github.com/acme/demo/blob/master//cmd/".toList :=
  @link_organisation_eq_repository "acme".toList "demo".toList (by decide) (by decide) (by decide)
    (by decide) "/cmd/".toList 0 3

end Breadcrumb.Heading
