import SiteAccess.Log.Tracing

namespace SiteAccess.Log.Tracing

variable {F W : Type}

section step

variable {lib : Library F W} {environment : Option String} {filter : String} {f : F} {w : W}
  {t : Tracing W}

end step

section calls

variable (lib : Library F W) (environment : Option String) (w : W)

def asked? (filter : String) : Option F := (asked lib environment filter).toOption

def reached (before : List String) : Tracing W := ((start w).run lib environment before).value

def call (before : List String) (filter : String) : Logged (Tracing W × Except String Unit) :=
  (reached lib environment w before).init lib environment filter

variable {lib environment w} {before : List String} {filter : String} {f : F}

end calls

end SiteAccess.Log.Tracing
