import ProwJobConfig.GoMap
import ProwJobConfig.Types
import ProwJobConfig.Regexp.Semantics
import ProwJobConfig.Regexp.Parse
import ProwJobConfig.Merge
import ProwJobConfig.Walk
import ProwJobConfig.Defaults
import ProwJobConfig.Decoration
import ProwJobConfig.Validate
import ProwJobConfig.Determinism
import ProwJobConfig.Settings
import ProwJobConfig.Spyglass
import ProwJobConfig.Load
import ProwJobConfig.Snapshot
import ProwJobConfig.Accessors
import ProwJobConfig.Trigger
import ProwJobConfig.Branches
