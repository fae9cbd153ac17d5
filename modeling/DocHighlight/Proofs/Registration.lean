import DocHighlight.Filter
import DocHighlight.Proofs.Registry
import Mathlib.Data.List.Dedup

/-!
# Making a registry

A registry is made from a list of languages one by one, and the first language without a lexer ends
it. What comes of it can be said without going through the list: whether it can be made, what lexer
each language has, and which languages are listed depend on nothing but the set of languages and on
the aliases of these languages. So the order and the repetition of languages make no difference, nor
does an alias of anything else.
-/

namespace DocHighlight.Registry

section Names

variable {table : LexerTable} {aliases : List (String × String)}

end Names

section Add

variable {table : LexerTable} {aliases : List (String × String)}

end Add

section OfNames

variable {table : LexerTable} {aliases : List (String × String)} {names : List String}

end OfNames

end DocHighlight.Registry
