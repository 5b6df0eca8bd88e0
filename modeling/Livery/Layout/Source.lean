import Livery.Text.Affix

/-!
# Content sources

A slot names where its content comes from by a specifier such as `region:nav`. `Source.parse` reads
a specifier and `Source.render` writes it; `render_parse` says that every specifier is written back
as it was.
-/

namespace Livery

/-- Where the content of a slot comes from. -/
inductive Source
  /-- The content of the page. -/
  | content
  /-- A region of the page. -/
  | region (name : String)
  /-- A copy of a region of the page. -/
  | cloneRegion (name : String)
  /-- A widget of the layout. -/
  | computed (name : String)
  /-- A fragment of the layout. -/
  | chrome (name : String)
  /-- A specifier of no known form, which gives nothing. -/
  | unknown (text : String)
deriving DecidableEq

namespace Source

/-- The source that a specifier names. -/
def parse (text : String) : Source :=
  if text = "content" then .content
  else
    match Text.behind? "region:" text with
    | some name => .region name
    | none =>
      match Text.behind? "clone:region:" text with
      | some name => .cloneRegion name
      | none =>
        match Text.behind? "computed:" text with
        | some name => .computed name
        | none =>
          match Text.behind? "chrome:" text with
          | some name => .chrome name
          | none => .unknown text

/-- The specifier of a source. -/
def render : Source → String
  | .content => "content"
  | .region name => "region:" ++ name
  | .cloneRegion name => "clone:region:" ++ name
  | .computed name => "computed:" ++ name
  | .chrome name => "chrome:" ++ name
  | .unknown text => text

theorem render_parse (text : String) : (parse text).render = text := by
  unfold parse
  split
  · rename_i h
    exact h.symm
  · repeat' split
    all_goals first
      | rfl
      | (rename_i h; exact (Text.eq_append_of_behind? h).symm)

end Source

end Livery
