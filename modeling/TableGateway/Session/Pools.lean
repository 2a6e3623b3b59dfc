import TableGateway.Network.Url
import TableGateway.Session.Basic

/-! # Pools of connections -/

namespace TableGateway.Session

/-- The pools of the projects under their names. -/
abbrev Pools := List (String × Config.Pool)

/-- One pool for each project, whose address must be a locator. -/
def Pools.ofProjects (environment : Config.Environment) :
    List (String × Config.Project) → Except Error Pools
  | [] => .ok []
  | (id, project) :: projects =>
      if Network.Url.isValid (project.connectionUrl environment) then
        (ofProjects environment projects).map fun pools => (id, project.pool) :: pools
      else .error (.config ("project " ++ id))

end TableGateway.Session
