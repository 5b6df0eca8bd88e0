import Livery.Layout.Composition
import Livery.Theme.Dressing

/-!
# Pages of a site

`composePage` makes a page from its data: the theme dresses the content and every region, and the
layout puts the dressed page together. The prefix of the theme is that of the layout's classes as
well.
-/

namespace Livery

/-- The page with its content and its regions dressed, where the dressing ends. -/
def Page.dressed (t : Theme) (page : Page) : Option Page := do
  let renderable ← page.renderable.mapM (t.transform none)
  let regions ← page.regions.traverse fun r =>
    (r.content.mapM (t.transform none)).map fun content => { r with content }
  some { page with renderable, regions }

/-- The composed page, where the dressing of its content ends. -/
def composePage (t : Theme) (l : Layout) (page : Page) : Option Element :=
  (page.dressed t).map fun page => l.compose page t.classPrefix

/--
The scope of composing a page: one scope for the content and each node of a region, then one for the
layout.
-/
def composePageScope (t : Theme) (l : Layout) (page : Page) : Action :=
  .scope ⟨"compose page", none⟩
    (page.renderable.toList.map t.transformScope ++
      (page.regions.values.flatMap fun r => r.content.map t.transformScope) ++ [l.composeScope])

end Livery
