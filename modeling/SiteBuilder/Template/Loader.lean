import SiteBuilder.Template.Content
import SiteBuilder.Template.Descriptor

/-!
# Loading templates

A template is loaded from a source, which may be a folder or a repository, and may be kept in a cache.
A template that cannot be rendered is refused before either is asked; one that is in the cache is not
asked for again.
-/

namespace SiteBuilder

/-- Templates that have been loaded, by their identifiers. -/
abbrev TemplateCache := NameMap TemplateContent

/-- What a load comes to: the template or why there is none, and the cache after it. A load that fails
leaves the cache as it is. -/
def loadTemplate {m : Type → Type} [Monad m] (fetch : Descriptor → m (Except LoadError TemplateContent))
    (cache : Option TemplateCache) (descriptor : Descriptor) :
    m (Except LoadError TemplateContent × Option TemplateCache) :=
  match descriptor.ensureSupported with
  | .error cause => return (.error cause, cache)
  | .ok () =>
    match cache.bind (·.get? descriptor.id) with
    | some content => return (.ok content, cache)
    | none => do
      match ← fetch descriptor with
      | .error cause => return (.error cause, cache)
      | .ok content => return (.ok content, cache.map (·.insert descriptor.id content))

/-- What a load comes to if only the form of the template is wanted. The template is cached as a whole. -/
def loadTemplateConfig {m : Type → Type} [Monad m] (fetch : Descriptor → m (Except LoadError TemplateContent))
    (cache : Option TemplateCache) (descriptor : Descriptor) :
    m (Except LoadError TemplateConfig × Option TemplateCache) := do
  let (result, cache) ← loadTemplate fetch cache descriptor
  return (result.map (·.config), cache)

end SiteBuilder
