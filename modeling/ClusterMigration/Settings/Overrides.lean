import ClusterMigration.CommandLine
import ClusterMigration.Settings.Basic

/-!
# Settings from the command line

Switches only ever turn manifests and reports off, and debugging on.
-/

namespace ClusterMigration

structure Overrides where
  outputDirectory : Option String := none
  hostname : Option String := none
  sourceRoot : Option String := none
  masterConfig : Option String := none
  registriesConfig : Option String := none
  crioConfig : Option String := none
  noManifests : Bool := false
  noReporting : Bool := false
  debug : Bool := false
  deriving DecidableEq, Repr

namespace Overrides

def flags : List Flag := [.outputDirectory, .hostname, .sourceRoot, .masterConfig,
  .registriesConfig, .crioConfig, .noManifests, .noReporting, .debug]

def ofGiven (g : CommandLine.Given) : Overrides where
  outputDirectory := g.lookup .outputDirectory
  hostname := g.lookup .hostname
  sourceRoot := g.lookup .sourceRoot
  masterConfig := g.lookup .masterConfig
  registriesConfig := g.lookup .registriesConfig
  crioConfig := g.lookup .crioConfig
  noManifests := g.hasFlag .noManifests
  noReporting := g.hasFlag .noReporting
  debug := g.hasFlag .debug

def apply (o : Overrides) (s : Settings) : Settings where
  outputDirectory := o.outputDirectory.getD s.outputDirectory
  hostname := o.hostname.getD s.hostname
  sourceRoot := o.sourceRoot.getD s.sourceRoot
  sources := {
    masterConfig := o.masterConfig.getD s.sources.masterConfig
    registriesConfig := o.registriesConfig.getD s.sources.registriesConfig
    crioConfig := o.crioConfig.getD s.sources.crioConfig }
  manifests := s.manifests && !o.noManifests
  reporting := s.reporting && !o.noReporting
  debug := s.debug || o.debug

end Overrides

end ClusterMigration
