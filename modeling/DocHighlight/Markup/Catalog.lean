import DocHighlight.Markup.Lexer

/-!
# The catalogue of lexers

All lexers that a language can be registered with, by the name that is shown and the names under
which they are looked up. No two lexers share a name.
-/

namespace DocHighlight.Markup

def catalog : List Lexer :=
  [⟨"ABAP", ["abap"]⟩,
   ⟨"ABNF", ["abnf"]⟩,
   ⟨"ADL", ["adl"]⟩,
   ⟨"AMDGPU", ["amdgpu"]⟩,
   ⟨"ANSYS parametric design language", ["ansys", "apdl"]⟩,
   ⟨"ANTLR", ["antlr"]⟩,
   ⟨"ANTLR With ActionScript Target", ["antlr-actionscript", "antlr-as"]⟩,
   ⟨"ANTLR With C# Target", ["antlr-c#", "antlr-csharp"]⟩,
   ⟨"ANTLR With CPP Target", ["antlr-cpp"]⟩,
   ⟨"ANTLR With Java Target", ["antlr-java"]⟩,
   ⟨"ANTLR With ObjectiveC Target", ["antlr-objc"]⟩,
   ⟨"ANTLR With Perl Target", ["antlr-perl"]⟩,
   ⟨"ANTLR With Python Target", ["antlr-python"]⟩,
   ⟨"ANTLR With Ruby Target", ["antlr-rb", "antlr-ruby"]⟩,
   ⟨"APL", ["apl"]⟩,
   ⟨"ASCII armored", ["asc", "pem"]⟩,
   ⟨"ASN.1", ["asn1"]⟩,
   ⟨"ActionScript", ["actionscript", "as"]⟩,
   ⟨"ActionScript 3", ["actionscript3", "as3"]⟩,
   ⟨"Ada", ["ada", "ada2005", "ada95"]⟩,
   ⟨"Agda", ["agda"]⟩,
   ⟨"Aheui", ["aheui"]⟩,
   ⟨"Alloy", ["alloy"]⟩,
   ⟨"AmbientTalk", ["ambienttalk", "ambienttalk/2", "at"]⟩,
   ⟨"Ampl", ["ampl"]⟩,
   ⟨"Angular2", ["ng2"]⟩,
   ⟨"ApacheConf", ["aconf", "apache", "apacheconf"]⟩,
   ⟨"AppleScript", ["applescript"]⟩,
   ⟨"Arduino", ["arduino"]⟩,
   ⟨"Arrow", ["arrow"]⟩,
   ⟨"Arturo", ["art", "arturo"]⟩,
   ⟨"AspectJ", ["aspectj"]⟩,
   ⟨"Asymptote", ["asy", "asymptote"]⟩,
   ⟨"Augeas", ["augeas"]⟩,
   ⟨"AutoIt", ["autoit"]⟩,
   ⟨"Awk", ["awk", "gawk", "mawk", "nawk"]⟩,
   ⟨"BARE", ["bare"]⟩,
   ⟨"BBC Basic", ["bbcbasic"]⟩,
   ⟨"BBCode", ["bbcode"]⟩,
   ⟨"BC", ["bc"]⟩,
   ⟨"BNF", ["bnf"]⟩,
   ⟨"BQN", ["bqn"]⟩,
   ⟨"BST", ["bst", "bst-pybtex"]⟩,
   ⟨"BUGS", ["bugs", "openbugs", "winbugs"]⟩,
   ⟨"Base Makefile", ["basemake"]⟩,
   ⟨"Bash", ["bash", "ksh", "openrc", "sh", "shell", "zsh"]⟩,
   ⟨"Bash Session", ["console", "shell-session"]⟩,
   ⟨"Batchfile", ["bat", "batch", "dosbatch", "winbatch"]⟩,
   ⟨"Bdd", ["bdd"]⟩,
   ⟨"Befunge", ["befunge"]⟩,
   ⟨"Berry", ["be", "berry"]⟩,
   ⟨"BibTeX", ["bib", "bibtex"]⟩,
   ⟨"BitBake", ["bitbake"]⟩,
   ⟨"BlitzBasic", ["b3d", "blitzbasic", "bplus"]⟩,
   ⟨"BlitzMax", ["blitzmax", "bmax"]⟩,
   ⟨"Blueprint", ["blueprint"]⟩,
   ⟨"Boa", ["boa"]⟩,
   ⟨"Boo", ["boo"]⟩,
   ⟨"Boogie", ["boogie"]⟩,
   ⟨"Brainfuck", ["bf", "brainfuck"]⟩,
   ⟨"C", ["c"]⟩,
   ⟨"C#", ["c#", "cs", "csharp"]⟩,
   ⟨"C++", ["c++", "cpp"]⟩,
   ⟨"CAmkES", ["camkes", "idl4"]⟩,
   ⟨"CBM BASIC V2", ["cbmbas"]⟩,
   ⟨"CDDL", ["cddl"]⟩,
   ⟨"CEL", ["cel"]⟩,
   ⟨"CFEngine3", ["cf3", "cfengine3"]⟩,
   ⟨"CMake", ["cmake"]⟩,
   ⟨"COBOL", ["cobol"]⟩,
   ⟨"COBOLFree", ["cobolfree"]⟩,
   ⟨"COMAL-80", ["comal", "comal80"]⟩,
   ⟨"CPSA", ["cpsa"]⟩,
   ⟨"CSS", ["css"]⟩,
   ⟨"CSS+Django/Jinja", ["css+django", "css+jinja"]⟩,
   ⟨"CSS+Genshi Text", ["css+genshi", "css+genshitext"]⟩,
   ⟨"CSS+Lasso", ["css+lasso"]⟩,
   ⟨"CSS+Mako", ["css+mako"]⟩,
   ⟨"CSS+Myghty", ["css+myghty"]⟩,
   ⟨"CSS+PHP", ["css+php"]⟩,
   ⟨"CSS+Ruby", ["css+erb", "css+ruby"]⟩,
   ⟨"CSS+Smarty", ["css+smarty"]⟩,
   ⟨"CSS+UL4", ["css+ul4"]⟩,
   ⟨"CSS+mozpreproc", ["css+mozpreproc"]⟩,
   ⟨"CUDA", ["cu", "cuda"]⟩,
   ⟨"Caddyfile", ["caddy", "caddyfile"]⟩,
   ⟨"Cap'n Proto", ["capnp"]⟩,
   ⟨"CapDL", ["capdl"]⟩,
   ⟨"Carbon", ["carbon"]⟩,
   ⟨"Ceylon", ["ceylon"]⟩,
   ⟨"ChaiScript", ["chai", "chaiscript"]⟩,
   ⟨"Chapel", ["chapel", "chpl"]⟩,
   ⟨"Charmci", ["charmci"]⟩,
   ⟨"Cheetah", ["cheetah", "spitfire"]⟩,
   ⟨"Cirru", ["cirru"]⟩,
   ⟨"Clay", ["clay"]⟩,
   ⟨"Clean", ["clean"]⟩,
   ⟨"Clojure", ["clj", "clojure"]⟩,
   ⟨"ClojureScript", ["cljs", "clojurescript"]⟩,
   ⟨"CodeQL", ["codeql", "ql"]⟩,
   ⟨"CoffeeScript", ["coffee", "coffee-script", "coffeescript"]⟩,
   ⟨"Coldfusion CFC", ["cfc"]⟩,
   ⟨"Coldfusion HTML", ["cfm"]⟩,
   ⟨"Common Lisp", ["cl", "common-lisp", "lisp"]⟩,
   ⟨"Component Pascal", ["componentpascal", "cp"]⟩,
   ⟨"Crmsh", ["crmsh", "pcmk"]⟩,
   ⟨"Croc", ["croc"]⟩,
   ⟨"Cryptol", ["cry", "cryptol"]⟩,
   ⟨"Crystal", ["cr", "crystal"]⟩,
   ⟨"Csound Document", ["csound-csd", "csound-document"]⟩,
   ⟨"Csound Orchestra", ["csound", "csound-orc"]⟩,
   ⟨"Csound Score", ["csound-sco", "csound-score"]⟩,
   ⟨"Cypher", ["cypher"]⟩,
   ⟨"Cython", ["cython", "pyrex", "pyx"]⟩,
   ⟨"D", ["d"]⟩,
   ⟨"DASM16", ["dasm16"]⟩,
   ⟨"DTD", ["dtd"]⟩,
   ⟨"Darcs Patch", ["dpatch"]⟩,
   ⟨"Dart", ["dart"]⟩,
   ⟨"Dax", ["dax"]⟩,
   ⟨"Debian Control file", ["control", "debcontrol"]⟩,
   ⟨"Debian Sourcelist", ["debsources", "sources.list", "sourceslist"]⟩,
   ⟨"Debian Sources file", ["debian.sources"]⟩,
   ⟨"Delphi", ["delphi", "objectpascal", "pas", "pascal"]⟩,
   ⟨"Desktop file", ["desktop"]⟩,
   ⟨"Devicetree", ["devicetree", "dts"]⟩,
   ⟨"Diff", ["diff", "udiff"]⟩,
   ⟨"Django/Jinja", ["django", "jinja"]⟩,
   ⟨"Docker", ["docker", "dockerfile"]⟩,
   ⟨"Duel", ["duel", "jbst", "jsonml+bst"]⟩,
   ⟨"Dylan", ["dylan"]⟩,
   ⟨"Dylan session", ["dylan-console", "dylan-repl"]⟩,
   ⟨"DylanLID", ["dylan-lid", "lid"]⟩,
   ⟨"E-mail", ["email", "eml"]⟩,
   ⟨"EBNF", ["ebnf"]⟩,
   ⟨"ECL", ["ecl"]⟩,
   ⟨"ERB", ["erb"]⟩,
   ⟨"Earl Grey", ["earl-grey", "earlgrey", "eg"]⟩,
   ⟨"Easytrieve", ["easytrieve"]⟩,
   ⟨"Eiffel", ["eiffel"]⟩,
   ⟨"Elixir", ["elixir", "ex", "exs"]⟩,
   ⟨"Elixir iex session", ["iex"]⟩,
   ⟨"Elm", ["elm"]⟩,
   ⟨"Elpi", ["elpi"]⟩,
   ⟨"EmacsLisp", ["elisp", "emacs", "emacs-lisp"]⟩,
   ⟨"Embedded Ragel", ["ragel-em"]⟩,
   ⟨"Erlang", ["erlang"]⟩,
   ⟨"Erlang erl session", ["erl"]⟩,
   ⟨"Evoque", ["evoque"]⟩,
   ⟨"Ezhil", ["ezhil"]⟩,
   ⟨"F#", ["f#", "fsharp"]⟩,
   ⟨"FStar", ["fstar"]⟩,
   ⟨"Factor", ["factor"]⟩,
   ⟨"Fancy", ["fancy", "fy"]⟩,
   ⟨"Fantom", ["fan"]⟩,
   ⟨"Felix", ["felix", "flx"]⟩,
   ⟨"Fennel", ["fennel", "fnl"]⟩,
   ⟨"Fift", ["fif", "fift"]⟩,
   ⟨"Fish", ["fish", "fishshell"]⟩,
   ⟨"Flatline", ["flatline"]⟩,
   ⟨"FloScript", ["flo", "floscript"]⟩,
   ⟨"Forth", ["forth"]⟩,
   ⟨"Fortran", ["f90", "fortran"]⟩,
   ⟨"FortranFixed", ["fortranfixed"]⟩,
   ⟨"FoxPro", ["clipper", "foxpro", "vfp", "xbase"]⟩,
   ⟨"Freefem", ["freefem"]⟩,
   ⟨"FunC", ["fc", "func"]⟩,
   ⟨"Futhark", ["futhark"]⟩,
   ⟨"GAP", ["gap"]⟩,
   ⟨"GAP session", ["gap-console", "gap-repl"]⟩,
   ⟨"GAS", ["asm", "gas"]⟩,
   ⟨"GDScript", ["gd", "gdscript"]⟩,
   ⟨"GLSL", ["glsl"]⟩,
   ⟨"GSQL", ["gsql"]⟩,
   ⟨"Genshi", ["genshi", "kid", "xml+genshi", "xml+kid"]⟩,
   ⟨"Genshi Text", ["genshitext"]⟩,
   ⟨"Gettext Catalog", ["po", "pot"]⟩,
   ⟨"Gherkin", ["cucumber", "gherkin"]⟩,
   ⟨"Gleam", ["gleam"]⟩,
   ⟨"Gnuplot", ["gnuplot"]⟩,
   ⟨"Go", ["go", "golang"]⟩,
   ⟨"Golo", ["golo"]⟩,
   ⟨"GoodData-CL", ["gooddata-cl"]⟩,
   ⟨"GoogleSQL", ["googlesql", "zetasql"]⟩,
   ⟨"Gosu", ["gosu"]⟩,
   ⟨"Gosu Template", ["gst"]⟩,
   ⟨"GraphQL", ["graphql"]⟩,
   ⟨"Graphviz", ["dot", "graphviz"]⟩,
   ⟨"Groff", ["groff", "man", "nroff"]⟩,
   ⟨"Groovy", ["groovy"]⟩,
   ⟨"HLSL", ["hlsl"]⟩,
   ⟨"HSAIL", ["hsa", "hsail"]⟩,
   ⟨"HTML", ["html"]⟩,
   ⟨"HTML + Angular2", ["html+ng2"]⟩,
   ⟨"HTML+Cheetah", ["html+cheetah", "html+spitfire", "htmlcheetah"]⟩,
   ⟨"HTML+Django/Jinja", ["html+django", "html+jinja", "htmldjango"]⟩,
   ⟨"HTML+Evoque", ["html+evoque"]⟩,
   ⟨"HTML+Genshi", ["html+genshi", "html+kid"]⟩,
   ⟨"HTML+Handlebars", ["html+handlebars"]⟩,
   ⟨"HTML+Lasso", ["html+lasso"]⟩,
   ⟨"HTML+Mako", ["html+mako"]⟩,
   ⟨"HTML+Myghty", ["html+myghty"]⟩,
   ⟨"HTML+PHP", ["html+php"]⟩,
   ⟨"HTML+Smarty", ["html+smarty"]⟩,
   ⟨"HTML+Twig", ["html+twig"]⟩,
   ⟨"HTML+UL4", ["html+ul4"]⟩,
   ⟨"HTML+Velocity", ["html+velocity"]⟩,
   ⟨"HTTP", ["http"]⟩,
   ⟨"Haml", ["haml"]⟩,
   ⟨"Handlebars", ["handlebars"]⟩,
   ⟨"Hare", ["hare"]⟩,
   ⟨"Haskell", ["haskell", "hs"]⟩,
   ⟨"Haxe", ["haxe", "hx", "hxsl"]⟩,
   ⟨"Hexdump", ["hexdump"]⟩,
   ⟨"Hspec", ["hspec"]⟩,
   ⟨"Hxml", ["haxeml", "hxml"]⟩,
   ⟨"Hy", ["hy", "hylang"]⟩,
   ⟨"Hybris", ["hybris"]⟩,
   ⟨"IDL", ["idl"]⟩,
   ⟨"INI", ["cfg", "dosini", "ini"]⟩,
   ⟨"IRC logs", ["irc"]⟩,
   ⟨"Icon", ["icon"]⟩,
   ⟨"Idris", ["idr", "idris"]⟩,
   ⟨"Igor", ["igor", "igorpro"]⟩,
   ⟨"Inform 6", ["i6", "inform6"]⟩,
   ⟨"Inform 6 template", ["i6t"]⟩,
   ⟨"Inform 7", ["i7", "inform7"]⟩,
   ⟨"Io", ["io"]⟩,
   ⟨"Ioke", ["ik", "ioke"]⟩,
   ⟨"Isabelle", ["isabelle"]⟩,
   ⟨"J", ["j"]⟩,
   ⟨"JAGS", ["jags"]⟩,
   ⟨"JCL", ["jcl"]⟩,
   ⟨"JMESPath", ["jmespath", "jp"]⟩,
   ⟨"JSGF", ["jsgf"]⟩,
   ⟨"JSLT", ["jslt"]⟩,
   ⟨"JSON", ["json", "json-object"]⟩,
   ⟨"JSON-LD", ["json-ld", "jsonld"]⟩,
   ⟨"JSON5", ["json5"]⟩,
   ⟨"JSX", ["jsx", "react"]⟩,
   ⟨"Janet", ["janet"]⟩,
   ⟨"Jasmin", ["jasmin", "jasminxt"]⟩,
   ⟨"Java", ["java"]⟩,
   ⟨"Java Server Page", ["jsp"]⟩,
   ⟨"JavaScript", ["javascript", "js"]⟩,
   ⟨"JavaScript+Cheetah",
     ["javascript+cheetah", "javascript+spitfire", "js+cheetah", "js+spitfire"]⟩,
   ⟨"JavaScript+Django/Jinja", ["javascript+django", "javascript+jinja", "js+django", "js+jinja"]⟩,
   ⟨"JavaScript+Genshi Text",
     ["javascript+genshi", "javascript+genshitext", "js+genshi", "js+genshitext"]⟩,
   ⟨"JavaScript+Lasso", ["javascript+lasso", "js+lasso"]⟩,
   ⟨"JavaScript+Mako", ["javascript+mako", "js+mako"]⟩,
   ⟨"JavaScript+Myghty", ["javascript+myghty", "js+myghty"]⟩,
   ⟨"JavaScript+PHP", ["javascript+php", "js+php"]⟩,
   ⟨"JavaScript+Ruby", ["javascript+erb", "javascript+ruby", "js+erb", "js+ruby"]⟩,
   ⟨"JavaScript+Smarty", ["javascript+smarty", "js+smarty"]⟩,
   ⟨"Javascript+UL4", ["js+ul4"]⟩,
   ⟨"Javascript+mozpreproc", ["javascript+mozpreproc"]⟩,
   ⟨"Jsonnet", ["jsonnet"]⟩,
   ⟨"Julia", ["jl", "julia"]⟩,
   ⟨"Julia console", ["jlcon", "julia-repl"]⟩,
   ⟨"Juttle", ["juttle"]⟩,
   ⟨"K", ["k"]⟩,
   ⟨"Kal", ["kal"]⟩,
   ⟨"Kconfig", ["kconfig", "kernel-config", "linux-config", "menuconfig"]⟩,
   ⟨"Kernel log", ["dmesg", "kmsg"]⟩,
   ⟨"Koka", ["koka"]⟩,
   ⟨"Kotlin", ["kotlin"]⟩,
   ⟨"Kuin", ["kuin"]⟩,
   ⟨"Kusto", ["kql", "kusto"]⟩,
   ⟨"LDAP configuration file", ["ldapconf", "ldaprc"]⟩,
   ⟨"LDIF", ["ldif"]⟩,
   ⟨"LLVM", ["llvm"]⟩,
   ⟨"LLVM-MIR", ["llvm-mir"]⟩,
   ⟨"LLVM-MIR Body", ["llvm-mir-body"]⟩,
   ⟨"LSL", ["lsl"]⟩,
   ⟨"Lasso", ["lasso", "lassoscript"]⟩,
   ⟨"Lean", ["lean", "lean3"]⟩,
   ⟨"Lean4", ["lean4"]⟩,
   ⟨"LessCss", ["less"]⟩,
   ⟨"Lighttpd configuration file", ["lighttpd", "lighty"]⟩,
   ⟨"LilyPond", ["lilypond"]⟩,
   ⟨"Limbo", ["limbo"]⟩,
   ⟨"Literate Agda", ["lagda", "literate-agda"]⟩,
   ⟨"Literate Cryptol", ["lcry", "lcryptol", "literate-cryptol"]⟩,
   ⟨"Literate Haskell", ["lhaskell", "lhs", "literate-haskell"]⟩,
   ⟨"Literate Idris", ["lidr", "lidris", "literate-idris"]⟩,
   ⟨"LiveScript", ["live-script", "livescript"]⟩,
   ⟨"Logos", ["logos"]⟩,
   ⟨"Logtalk", ["logtalk"]⟩,
   ⟨"Lua", ["lua"]⟩,
   ⟨"Luau", ["luau"]⟩,
   ⟨"MAQL", ["maql"]⟩,
   ⟨"MCFunction", ["mcf", "mcfunction"]⟩,
   ⟨"MCSchema", ["mcschema"]⟩,
   ⟨"MIME", ["mime"]⟩,
   ⟨"MIPS", ["mips"]⟩,
   ⟨"MOOCode", ["moo", "moocode"]⟩,
   ⟨"MQL", ["mq4", "mq5", "mql", "mql4", "mql5"]⟩,
   ⟨"MSDOS Session", ["doscon"]⟩,
   ⟨"MXML", ["mxml"]⟩,
   ⟨"Macaulay2", ["macaulay2"]⟩,
   ⟨"Makefile", ["bsdmake", "make", "makefile", "mf"]⟩,
   ⟨"Mako", ["mako"]⟩,
   ⟨"Maple", ["maple"]⟩,
   ⟨"Markdown", ["markdown", "md"]⟩,
   ⟨"Mask", ["mask"]⟩,
   ⟨"Mason", ["mason"]⟩,
   ⟨"Mathematica", ["mathematica", "mma", "nb", "wl", "wolfram"]⟩,
   ⟨"Matlab", ["matlab"]⟩,
   ⟨"Matlab session", ["matlabsession"]⟩,
   ⟨"Maxima", ["macsyma", "maxima"]⟩,
   ⟨"Meson", ["meson", "meson.build"]⟩,
   ⟨"MiniD", ["minid"]⟩,
   ⟨"MiniScript", ["miniscript", "ms"]⟩,
   ⟨"Modelica", ["modelica"]⟩,
   ⟨"Modula-2", ["m2", "modula2"]⟩,
   ⟨"MoinMoin/Trac Wiki markup", ["moin", "trac-wiki"]⟩,
   ⟨"Mojo", ["mojo", "🔥"]⟩,
   ⟨"Monkey", ["monkey"]⟩,
   ⟨"Monte", ["monte"]⟩,
   ⟨"MoonScript", ["moon", "moonscript"]⟩,
   ⟨"Mosel", ["mosel"]⟩,
   ⟨"Mscgen", ["msc", "mscgen"]⟩,
   ⟨"MuPAD", ["mupad"]⟩,
   ⟨"MySQL", ["mysql"]⟩,
   ⟨"Myghty", ["myghty"]⟩,
   ⟨"NASM", ["nasm"]⟩,
   ⟨"NCL", ["ncl"]⟩,
   ⟨"NSIS", ["nsh", "nsi", "nsis"]⟩,
   ⟨"Nemerle", ["nemerle"]⟩,
   ⟨"NestedText", ["nestedtext", "nt"]⟩,
   ⟨"NewLisp", ["newlisp"]⟩,
   ⟨"Newspeak", ["newspeak"]⟩,
   ⟨"Nginx configuration file", ["nginx"]⟩,
   ⟨"Nimrod", ["nim", "nimrod"]⟩,
   ⟨"Nit", ["nit"]⟩,
   ⟨"Nix", ["nix", "nixos"]⟩,
   ⟨"Node.js REPL console session", ["nodejsrepl"]⟩,
   ⟨"Notmuch", ["notmuch"]⟩,
   ⟨"NuSMV", ["nusmv"]⟩,
   ⟨"NumPy", ["numpy"]⟩,
   ⟨"Numba_IR", ["numba_ir", "numbair"]⟩,
   ⟨"OCaml", ["ocaml"]⟩,
   ⟨"ODIN", ["odin"]⟩,
   ⟨"OMG Interface Definition Language", ["omg-idl"]⟩,
   ⟨"Objective-C", ["obj-c", "objc", "objective-c", "objectivec"]⟩,
   ⟨"Objective-C++", ["obj-c++", "objc++", "objective-c++", "objectivec++"]⟩,
   ⟨"Objective-J", ["obj-j", "objective-j", "objectivej", "objj"]⟩,
   ⟨"Octave", ["octave"]⟩,
   ⟨"Ooc", ["ooc"]⟩,
   ⟨"Opa", ["opa"]⟩,
   ⟨"OpenEdge ABL", ["abl", "openedge", "progress"]⟩,
   ⟨"OpenSCAD", ["openscad"]⟩,
   ⟨"Org Mode", ["org", "org-mode", "orgmode"]⟩,
   ⟨"PDDL", ["pddl"]⟩,
   ⟨"PEG", ["peg"]⟩,
   ⟨"PHP", ["php", "php3", "php4", "php5"]⟩,
   ⟨"PL/pgSQL", ["plpgsql"]⟩,
   ⟨"POVRay", ["pov"]⟩,
   ⟨"PRQL", ["prql"]⟩,
   ⟨"PTX", ["ptx"]⟩,
   ⟨"PacmanConf", ["pacmanconf"]⟩,
   ⟨"Pan", ["pan"]⟩,
   ⟨"ParaSail", ["parasail"]⟩,
   ⟨"Pawn", ["pawn"]⟩,
   ⟨"Perl", ["perl", "pl"]⟩,
   ⟨"Perl6", ["perl6", "pl6", "raku"]⟩,
   ⟨"Phix", ["phix"]⟩,
   ⟨"Pig", ["pig"]⟩,
   ⟨"Pike", ["pike"]⟩,
   ⟨"PkgConfig", ["pkgconfig"]⟩,
   ⟨"Pointless", ["pointless"]⟩,
   ⟨"Pony", ["pony"]⟩,
   ⟨"Portugol", ["portugol"]⟩,
   ⟨"PostScript", ["postscr", "postscript"]⟩,
   ⟨"PostgreSQL EXPLAIN dialect", ["postgres-explain"]⟩,
   ⟨"PostgreSQL SQL dialect", ["postgres", "postgresql"]⟩,
   ⟨"PostgreSQL console (psql)", ["postgres-console", "postgresql-console", "psql"]⟩,
   ⟨"PowerShell", ["posh", "powershell", "ps1", "psm1", "pwsh"]⟩,
   ⟨"PowerShell Session", ["ps1con", "pwsh-session"]⟩,
   ⟨"Praat", ["praat"]⟩,
   ⟨"Procfile", ["procfile"]⟩,
   ⟨"Prolog", ["prolog"]⟩,
   ⟨"PromQL", ["promql"]⟩,
   ⟨"Promela", ["promela"]⟩,
   ⟨"Properties", ["jproperties", "properties"]⟩,
   ⟨"Protocol Buffer", ["proto", "protobuf"]⟩,
   ⟨"PsySH console session for PHP", ["psysh"]⟩,
   ⟨"Pug", ["jade", "pug"]⟩,
   ⟨"Puppet", ["puppet"]⟩,
   ⟨"PureScript", ["purescript", "purs"]⟩,
   ⟨"PyPy Log", ["pypy", "pypylog"]⟩,
   ⟨"Python", ["bazel", "py", "py3", "pyi", "python", "python3", "sage", "starlark"]⟩,
   ⟨"Python 2.x", ["py2", "python2"]⟩,
   ⟨"Python 2.x Traceback", ["py2tb"]⟩,
   ⟨"Python Traceback", ["py3tb", "pytb"]⟩,
   ⟨"Python console session", ["pycon", "python-console"]⟩,
   ⟨"Python+UL4", ["py+ul4"]⟩,
   ⟨"Q", ["q"]⟩,
   ⟨"QBasic", ["basic", "qbasic"]⟩,
   ⟨"QML", ["qbs", "qml"]⟩,
   ⟨"QVTO", ["qvt", "qvto"]⟩,
   ⟨"Qlik", ["qlik", "qlikscript", "qliksense", "qlikview"]⟩,
   ⟨"RConsole", ["rconsole", "rout"]⟩,
   ⟨"REBOL", ["rebol"]⟩,
   ⟨"RHTML", ["html+erb", "html+ruby", "rhtml"]⟩,
   ⟨"RPMSpec", ["spec"]⟩,
   ⟨"RQL", ["rql"]⟩,
   ⟨"RSL", ["rsl"]⟩,
   ⟨"Racket", ["racket", "rkt"]⟩,
   ⟨"Ragel", ["ragel"]⟩,
   ⟨"Ragel in C Host", ["ragel-c"]⟩,
   ⟨"Ragel in CPP Host", ["ragel-cpp"]⟩,
   ⟨"Ragel in D Host", ["ragel-d"]⟩,
   ⟨"Ragel in Java Host", ["ragel-java"]⟩,
   ⟨"Ragel in Objective C Host", ["ragel-objc"]⟩,
   ⟨"Ragel in Ruby Host", ["ragel-rb", "ragel-ruby"]⟩,
   ⟨"Rd", ["rd"]⟩,
   ⟨"ReasonML", ["reason", "reasonml"]⟩,
   ⟨"Red", ["red", "red/system"]⟩,
   ⟨"Redcode", ["redcode"]⟩,
   ⟨"Rego", ["rego"]⟩,
   ⟨"Relax-NG Compact", ["rnc", "rng-compact"]⟩,
   ⟨"Rell", ["rell"]⟩,
   ⟨"ResourceBundle", ["resource", "resourcebundle"]⟩,
   ⟨"Rexx", ["arexx", "rexx"]⟩,
   ⟨"Ride", ["ride"]⟩,
   ⟨"Rita", ["rita"]⟩,
   ⟨"Roboconf Graph", ["roboconf-graph"]⟩,
   ⟨"Roboconf Instances", ["roboconf-instances"]⟩,
   ⟨"RobotFramework", ["robotframework"]⟩,
   ⟨"Rocq Prover", ["coq", "rocq", "rocq-prover"]⟩,
   ⟨"Ruby", ["duby", "rb", "ruby"]⟩,
   ⟨"Ruby irb session", ["irb", "rbcon"]⟩,
   ⟨"Rust", ["rs", "rust"]⟩,
   ⟨"S", ["r", "s", "splus"]⟩,
   ⟨"SARL", ["sarl"]⟩,
   ⟨"SAS", ["sas"]⟩,
   ⟨"SCSS", ["scss"]⟩,
   ⟨"SNBT", ["snbt"]⟩,
   ⟨"SPARQL", ["sparql"]⟩,
   ⟨"SQL", ["sql"]⟩,
   ⟨"SQL+Jinja", ["sql+jinja"]⟩,
   ⟨"SWIG", ["swig"]⟩,
   ⟨"Sass", ["sass"]⟩,
   ⟨"Savi", ["savi"]⟩,
   ⟨"Scala", ["scala"]⟩,
   ⟨"Scalate Server Page", ["ssp"]⟩,
   ⟨"Scaml", ["scaml"]⟩,
   ⟨"Scheme", ["scheme", "scm"]⟩,
   ⟨"Scilab", ["scilab"]⟩,
   ⟨"Sed", ["gsed", "sed", "ssed"]⟩,
   ⟨"ShExC", ["shex", "shexc"]⟩,
   ⟨"Shen", ["shen"]⟩,
   ⟨"Sieve", ["sieve"]⟩,
   ⟨"Silver", ["silver"]⟩,
   ⟨"Singularity", ["singularity"]⟩,
   ⟨"Slash", ["slash"]⟩,
   ⟨"Slim", ["slim"]⟩,
   ⟨"Slurm", ["sbatch", "slurm"]⟩,
   ⟨"Smali", ["smali"]⟩,
   ⟨"Smalltalk", ["smalltalk", "squeak", "st"]⟩,
   ⟨"SmartGameFormat", ["sgf"]⟩,
   ⟨"Smarty", ["smarty"]⟩,
   ⟨"Smithy", ["smithy"]⟩,
   ⟨"Snobol", ["snobol"]⟩,
   ⟨"Snowball", ["snowball"]⟩,
   ⟨"Solidity", ["solidity"]⟩,
   ⟨"Soong", ["androidbp", "bp", "soong"]⟩,
   ⟨"Sophia", ["sophia"]⟩,
   ⟨"SourcePawn", ["sp"]⟩,
   ⟨"Spice", ["spice", "spicelang"]⟩,
   ⟨"SquidConf", ["squid", "squid.conf", "squidconf"]⟩,
   ⟨"Srcinfo", ["srcinfo"]⟩,
   ⟨"Stan", ["stan"]⟩,
   ⟨"Standard ML", ["sml"]⟩,
   ⟨"Stata", ["do", "stata"]⟩,
   ⟨"SuperCollider", ["sc", "supercollider"]⟩,
   ⟨"Swift", ["swift"]⟩,
   ⟨"Systemd", ["systemd"]⟩,
   ⟨"TADS 3", ["tads3"]⟩,
   ⟨"TAP", ["tap"]⟩,
   ⟨"TASM", ["tasm"]⟩,
   ⟨"TLS Presentation Language", ["tls"]⟩,
   ⟨"TOML", ["toml"]⟩,
   ⟨"TSX", ["tsx"]⟩,
   ⟨"TableGen", ["tablegen", "td"]⟩,
   ⟨"Tact", ["tact"]⟩,
   ⟨"Tal", ["tal", "uxntal"]⟩,
   ⟨"Tcl", ["tcl"]⟩,
   ⟨"Tcsh", ["csh", "tcsh"]⟩,
   ⟨"Tcsh Session", ["tcshcon"]⟩,
   ⟨"TeX", ["latex", "tex"]⟩,
   ⟨"Tea", ["tea"]⟩,
   ⟨"Tera Term macro", ["teraterm", "teratermmacro", "ttl"]⟩,
   ⟨"Termcap", ["termcap"]⟩,
   ⟨"Terminfo", ["terminfo"]⟩,
   ⟨"Terraform", ["hcl", "terraform", "tf"]⟩,
   ⟨"Text only", ["text"]⟩,
   ⟨"Text output", ["output"]⟩,
   ⟨"ThingsDB", ["thingsdb", "ti"]⟩,
   ⟨"Thrift", ["thrift"]⟩,
   ⟨"Tl-b", ["tlb"]⟩,
   ⟨"Todotxt", ["todotxt"]⟩,
   ⟨"TrafficScript", ["rts", "trafficscript"]⟩,
   ⟨"Transact-SQL", ["t-sql", "tsql"]⟩,
   ⟨"Treetop", ["treetop"]⟩,
   ⟨"Turtle", ["turtle"]⟩,
   ⟨"Twig", ["twig"]⟩,
   ⟨"TypeScript", ["ts", "typescript"]⟩,
   ⟨"TypoScript", ["typoscript"]⟩,
   ⟨"TypoScriptCssData", ["typoscriptcssdata"]⟩,
   ⟨"TypoScriptHtmlData", ["typoscripthtmldata"]⟩,
   ⟨"Typographic Number Theory", ["tnt"]⟩,
   ⟨"Typst", ["typst"]⟩,
   ⟨"UL4", ["ul4"]⟩,
   ⟨"USD", ["usd", "usda"]⟩,
   ⟨"Unicon", ["unicon"]⟩,
   ⟨"Unix/Linux config files", ["linuxconfig", "unixconfig"]⟩,
   ⟨"UrbiScript", ["urbiscript"]⟩,
   ⟨"VB.net", ["lobas", "oobas", "sobas", "vb.net", "vbnet", "visual-basic", "visualbasic"]⟩,
   ⟨"VBScript", ["vbscript"]⟩,
   ⟨"VCL", ["vcl"]⟩,
   ⟨"VCLSnippets", ["vclsnippet", "vclsnippets"]⟩,
   ⟨"VCTreeStatus", ["vctreestatus"]⟩,
   ⟨"VGL", ["vgl"]⟩,
   ⟨"Vala", ["vala", "vapi"]⟩,
   ⟨"Velocity", ["velocity"]⟩,
   ⟨"Verifpal", ["verifpal"]⟩,
   ⟨"VimL", ["vim"]⟩,
   ⟨"Visual Prolog", ["visualprolog"]⟩,
   ⟨"Visual Prolog Grammar", ["visualprologgrammar"]⟩,
   ⟨"Vue", ["vue"]⟩,
   ⟨"Vyper", ["vyper"]⟩,
   ⟨"WDiff", ["wdiff"]⟩,
   ⟨"Web IDL", ["webidl"]⟩,
   ⟨"WebAssembly", ["wast", "wat"]⟩,
   ⟨"WebGPU Shading Language", ["wgsl"]⟩,
   ⟨"Whiley", ["whiley"]⟩,
   ⟨"Wikitext", ["mediawiki", "wikitext"]⟩,
   ⟨"World of Warcraft TOC", ["wowtoc"]⟩,
   ⟨"Wren", ["wren"]⟩,
   ⟨"X++", ["x++", "xpp"]⟩,
   ⟨"X10", ["x10", "xten"]⟩,
   ⟨"XML", ["xml"]⟩,
   ⟨"XML+Cheetah", ["xml+cheetah", "xml+spitfire"]⟩,
   ⟨"XML+Django/Jinja", ["xml+django", "xml+jinja"]⟩,
   ⟨"XML+Evoque", ["xml+evoque"]⟩,
   ⟨"XML+Lasso", ["xml+lasso"]⟩,
   ⟨"XML+Mako", ["xml+mako"]⟩,
   ⟨"XML+Myghty", ["xml+myghty"]⟩,
   ⟨"XML+PHP", ["xml+php"]⟩,
   ⟨"XML+Ruby", ["xml+erb", "xml+ruby"]⟩,
   ⟨"XML+Smarty", ["xml+smarty"]⟩,
   ⟨"XML+UL4", ["xml+ul4"]⟩,
   ⟨"XML+Velocity", ["xml+velocity"]⟩,
   ⟨"XQuery", ["xq", "xql", "xqm", "xquery", "xqy"]⟩,
   ⟨"XSLT", ["xslt"]⟩,
   ⟨"XUL+mozpreproc", ["xul+mozpreproc"]⟩,
   ⟨"Xorg", ["xorg.conf"]⟩,
   ⟨"Xtend", ["xtend"]⟩,
   ⟨"YAML", ["yaml", "yml"]⟩,
   ⟨"YAML+Jinja", ["salt", "sls", "yaml+jinja"]⟩,
   ⟨"YANG", ["yang"]⟩,
   ⟨"YARA", ["yar", "yara"]⟩,
   ⟨"Zeek", ["bro", "zeek"]⟩,
   ⟨"Zephir", ["zephir"]⟩,
   ⟨"Zig", ["zig"]⟩,
   ⟨"Zone", ["zone"]⟩,
   ⟨"aspx-cs", ["aspx-cs"]⟩,
   ⟨"aspx-vb", ["aspx-vb"]⟩,
   ⟨"autohotkey", ["ahk", "autohotkey"]⟩,
   ⟨"c-objdump", ["c-objdump"]⟩,
   ⟨"cADL", ["cadl"]⟩,
   ⟨"ca65 assembler", ["ca65"]⟩,
   ⟨"cfstatement", ["cfs"]⟩,
   ⟨"cplint", ["cplint"]⟩,
   ⟨"cpp-objdump", ["c++-objdumb", "cpp-objdump", "cxx-objdump"]⟩,
   ⟨"d-objdump", ["d-objdump"]⟩,
   ⟨"dg", ["dg"]⟩,
   ⟨"eC", ["ec"]⟩,
   ⟨"execline", ["execline"]⟩,
   ⟨"g-code", ["gcode"]⟩,
   ⟨"liquid", ["liquid"]⟩,
   ⟨"mozhashpreproc", ["mozhashpreproc"]⟩,
   ⟨"mozpercentpreproc", ["mozpercentpreproc"]⟩,
   ⟨"nesC", ["nesc"]⟩,
   ⟨"objdump", ["objdump"]⟩,
   ⟨"objdump-nasm", ["objdump-nasm"]⟩,
   ⟨"reStructuredText", ["rest", "restructuredtext", "rst"]⟩,
   ⟨"reg", ["registry"]⟩,
   ⟨"scdoc", ["scd", "scdoc"]⟩,
   ⟨"sqlite3con", ["sqlite3"]⟩,
   ⟨"systemverilog", ["sv", "systemverilog"]⟩,
   ⟨"teal", ["teal"]⟩,
   ⟨"tiddler", ["tid"]⟩,
   ⟨"ucode", ["ucode"]⟩,
   ⟨"urlencoded", ["urlencoded"]⟩,
   ⟨"verilog", ["v", "verilog"]⟩,
   ⟨"vhdl", ["vhdl"]⟩,
   ⟨"xtlang", ["extempore"]⟩]

def lexerNamed? (name : String) : Option Lexer :=
  catalog.find? fun lexer => lexer.aliases.contains name

end DocHighlight.Markup
